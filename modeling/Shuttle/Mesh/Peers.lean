import Shuttle.Mesh.SignalMessages

/-!
# The peers of a mesh server

`mesh/peertable.go` maps virtual addresses to the writers of their streams and forwards packets;
`mesh/signal/hub.go` does the same for signaling messages. Both key their maps by the unmapped
address. The hub checks that a message names its sender, forwards four types of messages, answers
pings, and drops every other type.
-/

namespace Shuttle.Mesh

open Shuttle.Go

/-! ## Keys -/

def vipKey (ip : IP) : Addr :=
  match Addr.ofSlice ip with
  | some addr => addr.unmap
  | none => .zero

def hubVIPKey (ip : IP) : Addr := vipKey ip

theorem vipKey_short {ip four : IP} (short : to4 ip = some four) :
    vipKey ip = .v4 (UInt32.ofNat (ofBe four)) := by
  rw [vipKey, Addr.ofSlice]
  by_cases length : ip.length = 4
  · rw [to4_four length] at short
    cases short
    rw [if_pos length]
    rfl
  · have sixteen : ip.length = 16 := by
      rw [to4, if_neg length] at short
      split at short
      · rename_i mapped
        exact mapped.1
      · cases short
    rw [if_neg length, if_pos sixteen]
    dsimp only
    rw [Addr.unmap, Addr.beBytes_ofNat_ofBe sixteen, short]

theorem vipKey_long {ip : IP} (sixteen : ip.length = 16) (long : to4 ip = none) :
    vipKey ip = .v6 (BitVec.ofNat 128 (ofBe ip)) [] := by
  rw [vipKey, Addr.ofSlice, if_neg (by omega), if_pos sixteen]
  dsimp only
  rw [Addr.unmap, Addr.beBytes_ofNat_ofBe sixteen, long]

theorem vipKey_unmap (ip : IP) : (vipKey ip).unmap = vipKey ip := by
  unfold vipKey
  split
  · exact Addr.unmap_unmap _
  · rfl

theorem vipKey_ne_embedded {ip embedded : IP} (sixteen : ip.length = 16)
    (short : to4 ip = some embedded) (held : IP) :
    Addr.v6 (BitVec.ofNat 128 (ofBe ip)) [] ≠ vipKey held := by
  intro same
  have fixed := vipKey_unmap held
  rw [← same, Addr.unmap, Addr.beBytes_ofNat_ofBe sixteen, short] at fixed
  cases fixed

theorem vipKey_injective {left right : IP} (leftShort : left.length = 4)
    (rightShort : right.length = 4) (same : vipKey left = vipKey right) : left = right := by
  rw [vipKey_short (to4_four leftShort), vipKey_short (to4_four rightShort)] at same
  exact Addr.v4_injective leftShort rightShort same

/-! ## The peer table -/

def version (pkt : List UInt8) : UInt8 := pkt.getD 0 0 >>> 4

structure PeerTable (W : Type) where
  peers : GoMap Addr W

namespace PeerTable

variable {W : Type}

def new : PeerTable W := ⟨GoMap.empty⟩

variable (table : PeerTable W)

def register (ip : IP) (writer : W) : PeerTable W :=
  ⟨table.peers.set (vipKey ip) writer⟩

def unregister (ip : IP) : PeerTable W := ⟨table.peers.delete (vipKey ip)⟩

structure Forwarded (W : Type) where
  writes : List (W × List UInt8)
  routed : Bool
deriving DecidableEq

/-- The destination that a packet is forwarded to, from the bytes its version puts it at. -/
def destinationKey (pkt : List UInt8) : Option Addr :=
  if pkt.length < 1 then none
  else if version pkt = 4 then
    if pkt.length < 20 then none
    else some (.v4 (UInt32.ofNat (ofBe ((pkt.drop 16).take 4))))
  else if version pkt = 6 then
    if pkt.length < 40 then none
    else some (.v6 (BitVec.ofNat 128 (ofBe ((pkt.drop 24).take 16))) [])
  else none

/-- Forward a packet to the peer at its destination; the writers that fail are given. -/
def forward (fails : W → Bool) (pkt : List UInt8) : Forwarded W :=
  match destinationKey pkt with
  | none => ⟨[], false⟩
  | some dstKey =>
    match table.peers dstKey with
    | none => ⟨[], false⟩
    | some writer => ⟨[(writer, pkt)], !fails writer⟩

end PeerTable

/-! ## The hub -/

structure PeerConn (W : Type) where
  vip : IP
  writer : W

structure Hub (W : Type) where
  peers : GoMap Addr (PeerConn W)

inductive HubError where
  | decode (cause : SignalError)
  /-- "SrcVIP %v does not match sender %v". -/
  | srcMismatch (claimed actual : IP)
  | write
deriving DecidableEq

structure Handled (W : Type) where
  writes : List (W × List UInt8)
  error : Option HubError
deriving DecidableEq

namespace Hub

variable {W : Type}

def new : Hub W := ⟨GoMap.empty⟩

variable (hub : Hub W)

def register (vip : IP) (writer : W) : Hub W :=
  ⟨hub.peers.set (hubVIPKey vip) ⟨vip, writer⟩⟩

def unregister (vip : IP) : Hub W := ⟨hub.peers.delete (hubVIPKey vip)⟩

/-- Route a message to its destination; without such a peer it is dropped silently. -/
def forward (fails : W → Bool) (msg : Message) : Handled W :=
  match hub.peers (hubVIPKey msg.dstVIP) with
  | none => ⟨[], none⟩
  | some peer =>
    ⟨[(peer.writer, msg.encode)], if fails peer.writer then some .write else none⟩

def handleMessage (fails : W → Bool) (data : List UInt8) (senderVIP : IP) : Handled W :=
  match Message.decode data with
  | .error cause => ⟨[], some (.decode cause)⟩
  | .ok msg =>
    if ipEqual msg.srcVIP senderVIP = false then ⟨[], some (.srcMismatch msg.srcVIP senderVIP)⟩
    else if msg.type = signalCandidate ∨ msg.type = signalConnect ∨
        msg.type = signalConnectAck ∨ msg.type = signalDisconnect then
      hub.forward fails msg
    else if msg.type = signalPing then
      hub.forward fails (newPongMessage msg.dstVIP msg.srcVIP)
    else ⟨[], none⟩

def writers (key : Addr) : Option W := (hub.peers key).map PeerConn.writer

theorem writers_register (vip : IP) (writer : W) :
    (hub.register vip writer).writers = Function.update hub.writers (hubVIPKey vip) (some writer) :=
  Function.comp_update (Option.map PeerConn.writer) hub.peers (hubVIPKey vip) _

theorem writers_unregister (vip : IP) :
    (hub.unregister vip).writers = Function.update hub.writers (hubVIPKey vip) none :=
  Function.comp_update (Option.map PeerConn.writer) hub.peers (hubVIPKey vip) _

end Hub

/-! ## Relaying -/

/-- The messages that a client has a method to send to a peer, pings apart. -/
def SignalCall.SentToPeer : SignalCall → Prop
  | .candidate _ => True
  | .connect _ => True
  | .connectAck _ => True
  | .disconnect => True
  | .iceRestart _ => True
  | .trickleCandidate _ => True
  | .endOfCandidates _ => True
  | .webRTCOffer _ => True
  | .webRTCAnswer _ => True
  | .webRTCICECandidate _ => True
  | _ => False

/-- A type that a client can send to a peer, ping apart. -/
def SentType (type : UInt8) : Prop :=
  ∃ (call : SignalCall) (srcVIP dstVIP : IP), call.SentToPeer ∧
    type = (call.message srcVIP dstVIP).type

def Relayed (type : UInt8) : Prop :=
  type = signalCandidate ∨ type = signalConnect ∨ type = signalConnectAck ∨ type = signalDisconnect

theorem SentType.ne_ping {type : UInt8} (sent : SentType type) : type ≠ signalPing := by
  have ⟨call, srcVIP, dstVIP, listed, same⟩ := sent
  rw [same]
  cases call with
  | candidate _ => exact (by decide : signalCandidate ≠ signalPing)
  | connect _ => exact (by decide : signalConnect ≠ signalPing)
  | connectAck _ => exact (by decide : signalConnectAck ≠ signalPing)
  | disconnect => exact (by decide : signalDisconnect ≠ signalPing)
  | iceRestart _ => exact (by decide : signalICERestart ≠ signalPing)
  | trickleCandidate _ => exact (by decide : signalTrickleCandidate ≠ signalPing)
  | endOfCandidates _ => exact (by decide : signalEndOfCandidates ≠ signalPing)
  | webRTCOffer _ => exact (by decide : signalWebRTCOffer ≠ signalPing)
  | webRTCAnswer _ => exact (by decide : signalWebRTCAnswer ≠ signalPing)
  | webRTCICECandidate _ => exact (by decide : signalWebRTCICECandidate ≠ signalPing)
  | ping | pong | error _ => exact absurd listed id

theorem decode_four {data : List UInt8} {msg : Message} (decoded : Message.decode data = .ok msg) :
    msg.srcVIP.length = 4 ∧ msg.dstVIP.length = 4 := by
  rw [Message.decode] at decoded
  split at decoded
  · cases decoded
  rename_i long
  dsimp only at decoded
  split at decoded
  · cases decoded
  split at decoded
  · cases decoded
  cases decoded
  unfold headerSize at long
  refine ⟨?_, ?_⟩
  all_goals
    rw [List.length_take, List.length_drop]
    omega

section Relay

variable {W : Type} {hub : Hub W} {fails : W → Bool} {data : List UInt8} {msg : Message}
  {senderVIP : IP}

section

variable (decoded : Message.decode data = .ok msg)

include decoded

theorem encode_sender (named : ipEqual msg.srcVIP senderVIP = true) :
    ({ msg with srcVIP := senderVIP } : Message).encode = msg.encode := by
  have four := (decode_four decoded).1
  have sender := (ipEqual_four four senderVIP).mp named
  rw [Message.encode, Message.encode, sender, to4_four four]

theorem handleMessage_spoofed (other : ipEqual msg.srcVIP senderVIP = false) :
    (hub.handleMessage fails data senderVIP).writes = [] := by
  unfold Hub.handleMessage
  rw [decoded]
  dsimp only
  rw [if_pos other]

theorem handleMessage_relayed {peer : PeerConn W}
    (named : ipEqual msg.srcVIP senderVIP = true) (relayed : Relayed msg.type)
    (registered : hub.peers (hubVIPKey msg.dstVIP) = some peer) :
    (hub.handleMessage fails data senderVIP).writes = [(peer.writer, msg.encode)] := by
  unfold Hub.handleMessage
  rw [decoded]
  dsimp only
  rw [if_neg (fun other => Bool.false_ne_true (other.symm.trans named))]
  unfold Relayed at relayed
  rw [if_pos relayed]
  unfold Hub.forward
  rw [registered]

theorem handleMessage_dropped (unknown : ¬Relayed msg.type) (other : msg.type ≠ signalPing) :
    (hub.handleMessage fails data senderVIP).writes = [] := by
  unfold Hub.handleMessage
  rw [decoded]
  dsimp only
  unfold Relayed at unknown
  split <;> rfl

end

end Relay

/-- A message of a client to a registered peer, pings apart, is written once, to the destination and
with the sender as its source, if and only if it names its sender and is one of the four types of
candidates, connection requests, acknowledgments and disconnections. -/
theorem hub_relays_iff {W : Type} (hub : Hub W) (fails : W → Bool) (data : List UInt8)
    (msg : Message) (decoded : Message.decode data = .ok msg) (kind : SentType msg.type)
    (senderVIP : IP) (peer : PeerConn W) (_sender : (hub.peers (hubVIPKey senderVIP)).isSome)
    (registered : hub.peers (hubVIPKey msg.dstVIP) = some peer) :
    (hub.handleMessage fails data senderVIP).writes =
        [(peer.writer, ({ msg with srcVIP := senderVIP } : Message).encode)] ↔
      ipEqual msg.srcVIP senderVIP = true ∧ Relayed msg.type := by
  constructor
  · intro written
    by_contra refused
    have silent : (hub.handleMessage fails data senderVIP).writes = [] := by
      rcases not_and_or.mp refused with other | unknown
      · exact handleMessage_spoofed decoded (Bool.eq_false_iff.mpr other)
      · exact handleMessage_dropped decoded unknown kind.ne_ping
    rw [silent] at written
    cases written
  · rintro ⟨named, relayed⟩
    rw [handleMessage_relayed decoded named relayed registered, encode_sender decoded named]

def pairHub : Hub Nat := (Hub.new.register [10, 7, 0, 2] 2).register [10, 7, 0, 3] 3

def disconnectNotice : Message := newDisconnectMessage [10, 7, 0, 2] [10, 7, 0, 3]

theorem disconnect_relayed :
    (pairHub.handleMessage (fun _ => false) disconnectNotice.encode [10, 7, 0, 2]).writes =
      [(3, disconnectNotice.encode)] :=
  (hub_relays_iff pairHub (fun _ => false) disconnectNotice.encode disconnectNotice rfl
    ⟨.disconnect, [], [], trivial, rfl⟩ [10, 7, 0, 2] ⟨[10, 7, 0, 3], 3⟩ rfl rfl).mpr
    ⟨rfl, .inr (.inr (.inr rfl))⟩

/-- The end of the candidates, which a client sends between the same peers, is not. -/
theorem end_of_candidates_dropped :
    (pairHub.handleMessage (fun _ => false)
        (newEndOfCandidatesMessage [10, 7, 0, 2] [10, 7, 0, 3] ⟨1, 0⟩).encode
        [10, 7, 0, 2]).writes = [] ∧
      (SignalCall.endOfCandidates ⟨1, 0⟩).SentToPeer ∧
      (pairHub.peers (hubVIPKey [10, 7, 0, 2])).isSome ∧
      (pairHub.peers (hubVIPKey [10, 7, 0, 3])).isSome :=
  ⟨rfl, trivial, rfl, rfl⟩

end Shuttle.Mesh
