import Shuttle.Lib.Leases
import Shuttle.Lib.Machine
import Shuttle.Mesh.Allocator
import Shuttle.Mesh.Peers

/-!
# Mesh streams on the server

`HandleMeshStream` of `server/handler.go` gives a stream a virtual address, lists its writer in the
peer table and in the signaling hub, serves its frames, and undoes the three steps in the opposite
order. A frame is taken for a signaling message by its first byte when there is a hub, and is
forwarded as a packet otherwise. Concurrent streams interleave their calls.
-/

namespace Shuttle.Server

open Shuttle.Go Shuttle.Lib Shuttle.Mesh List Function

/-! ## Frames -/

def namedTypes : List UInt8 :=
  [signalCandidate, signalConnect, signalConnectAck, signalDisconnect, signalPing, signalPong,
    signalError]

variable (pkt : List UInt8)

/-- Whether a frame is taken for a signaling message: it has one of the types checked for, or is
not of IP version four. -/
def isSignalingPacket : Bool :=
  if pkt.length < headerSize then false
  else if pkt.getD 0 0 ∈ namedTypes then true
  else version pkt ≠ 4

inductive FrameDispatch (W : Type) where
  | signal (handled : Handled W)
  | forward (forwarded : PeerTable.Forwarded W)
deriving DecidableEq

def handleFrame {W : Type} (signalHub : Option (Hub W)) (table : PeerTable W) (fails : W → Bool)
    (pkt : List UInt8) (ip : IP) : FrameDispatch W :=
  match signalHub with
  | none => .forward (table.forward fails pkt)
  | some hub =>
    if isSignalingPacket pkt then .signal (hub.handleMessage fails pkt ip)
    else .forward (table.forward fails pkt)

/-- The packets with a whole IPv4 or IPv6 header. -/
def IPPacket : Prop :=
  version pkt = 4 ∧ 20 ≤ pkt.length ∨ version pkt = 6 ∧ 40 ≤ pkt.length

def destination : IP :=
  if version pkt = 4 then (pkt.drop 16).take 4 else (pkt.drop 24).take 16

def definedTypes : List UInt8 :=
  [signalCandidate, signalConnect, signalConnectAck, signalDisconnect, signalPing, signalPong,
    signalICERestart, signalTrickleCandidate, signalEndOfCandidates, signalWebRTCOffer,
    signalWebRTCAnswer, signalWebRTCICECandidate, signalError]

inductive Registered {W : Type} : PeerTable W → Prop
  | new : Registered PeerTable.new
  | register {table : PeerTable W} (ip : IP) (writer : W) :
      Registered table → Registered (table.register ip writer)
  | unregister {table : PeerTable W} (ip : IP) :
      Registered table → Registered (table.unregister ip)

section Frames

variable {W : Type} {table : PeerTable W} {pkt : List UInt8} {fails : W → Bool} {ip : IP}

theorem Registered.keyed (built : Registered table) {key : Addr} {writer : W}
    (found : table.peers key = some writer) : ∃ owner, key = vipKey owner := by
  induction built with
  | new => cases found
  | register owner added _ ih =>
    rcases GoMap.set_eq_some_iff.mp found with ⟨same, _⟩ | ⟨_, before⟩
    · exact ⟨owner, same⟩
    · exact ih before
  | unregister owner _ ih =>
    exact ih (GoMap.delete_eq_some_iff.mp found).2

theorem defined_not_four {type : UInt8} (defined : type ∈ definedTypes) : type >>> 4 ≠ 4 := by
  have checked : definedTypes.all (fun listed => listed >>> 4 != 4) = true := by decide
  exact bne_iff_ne.mp (all_eq_true.mp checked type defined)

theorem not_signaling_of_version_four (four : version pkt = 4) : isSignalingPacket pkt = false := by
  unfold isSignalingPacket
  split
  · rfl
  rw [if_neg, four]
  · rfl
  · intro listed
    exact defined_not_four ((by decide : namedTypes ⊆ definedTypes) listed) four

theorem signaling_of_version {pkt : List UInt8} (long : headerSize ≤ pkt.length)
    (other : version pkt ≠ 4) : isSignalingPacket pkt = true := by
  unfold isSignalingPacket
  rw [if_neg (Nat.not_lt.mpr long)]
  split
  · rfl
  · exact decide_eq_true other

theorem destinationKey_eq (packet : IPPacket pkt) :
    PeerTable.destinationKey pkt =
      some (if version pkt = 4 then vipKey (destination pkt)
        else .v6 (BitVec.ofNat 128 (ofBe (destination pkt))) []) := by
  have size : ¬pkt.length < 1 := by
    rcases packet with ⟨_, long⟩ | ⟨_, long⟩ <;> omega
  unfold PeerTable.destinationKey
  rw [if_neg size]
  rcases packet with ⟨four, long⟩ | ⟨six, long⟩
  · have short : ((pkt.drop 16).take 4).length = 4 := by
      rw [length_take, length_drop]
      omega
    unfold destination
    rw [if_pos four, if_pos four, if_pos four, vipKey_short (to4_four short),
      if_neg (Nat.not_lt.mpr long)]
  · have apart : version pkt ≠ 4 := by
      rw [six]
      decide
    unfold destination
    rw [if_neg apart, if_neg apart, if_neg apart, if_pos six, if_neg (Nat.not_lt.mpr long)]

theorem forward_owner_iff (fails : W → Bool) {writer : W} (built : Registered table)
    (packet : IPPacket pkt) (owner : table.peers (vipKey (destination pkt)) = some writer) :
    table.forward fails pkt = ⟨[(writer, pkt)], !fails writer⟩ ↔
      version pkt = 4 ∨ to4 (destination pkt) = none := by
  unfold PeerTable.forward
  rw [destinationKey_eq packet]
  dsimp only
  by_cases four : version pkt = 4
  · rw [if_pos four, owner]
    simp [four]
  · rw [if_neg four]
    have ⟨_, long⟩ := packet.resolve_left (fun v4 => four v4.1)
    have sixteen : (destination pkt).length = 16 := by
      unfold destination
      rw [if_neg four, length_take, length_drop]
      omega
    cases short : to4 (destination pkt) with
    | none =>
      rw [vipKey_long sixteen short] at owner
      rw [owner]
      simp
    | some embedded =>
      have missing : table.peers (.v6 (BitVec.ofNat 128 (ofBe (destination pkt))) []) = none := by
        cases found : table.peers (.v6 (BitVec.ofNat 128 (ofBe (destination pkt))) []) with
        | none => rfl
        | some other =>
          have ⟨held, same⟩ := built.keyed found
          exact absurd same (vipKey_ne_embedded sixteen short held)
      rw [missing]
      simp [four]

theorem decode_header {msg : Message} (decoded : Message.decode pkt = .ok msg) :
    headerSize ≤ pkt.length ∧ pkt.getD 0 0 = msg.type := by
  unfold Message.decode at decoded
  split at decoded
  · cases decoded
  rename_i long
  dsimp only at decoded
  split at decoded
  · cases decoded
  split at decoded <;> cases decoded
  exact ⟨Nat.not_lt.mp long, rfl⟩

theorem handleFrame_signal {hub : Hub W} {msg : Message} (decoded : Message.decode pkt = .ok msg)
    (defined : msg.type ∈ definedTypes) :
    handleFrame (some hub) table fails pkt ip = .signal (hub.handleMessage fails pkt ip) := by
  have ⟨long, type⟩ := decode_header decoded
  have other : version pkt ≠ 4 := by
    unfold version
    rw [type]
    exact defined_not_four defined
  unfold handleFrame
  dsimp only
  rw [if_pos (signaling_of_version long other)]

end Frames

/-- A packet with a whole header whose destination belongs to a registered peer is forwarded to that
peer if and only if it is of IPv4, or there is no hub and its destination does not embed an IPv4
address; and every frame that decodes to a signaling message of a defined type is given to the hub,
when there is one. -/
theorem frame_classification {W : Type} (signalHub : Option (Hub W)) (table : PeerTable W)
    (built : Registered table) (fails : W → Bool) (pkt : List UInt8)
    (_long : headerSize ≤ pkt.length) (ip : IP) :
    (∀ writer, IPPacket pkt → table.peers (vipKey (destination pkt)) = some writer →
      (handleFrame signalHub table fails pkt ip = .forward ⟨[(writer, pkt)], !fails writer⟩ ↔
        version pkt = 4 ∨ signalHub = none ∧ to4 (destination pkt) = none)) ∧
    ∀ hub msg, signalHub = some hub → Message.decode pkt = .ok msg → msg.type ∈ definedTypes →
      handleFrame signalHub table fails pkt ip = .signal (hub.handleMessage fails pkt ip) := by
  constructor
  · intro writer packet owner
    have found := forward_owner_iff fails built packet owner
    cases signalHub with
    | none =>
      unfold handleFrame
      rw [FrameDispatch.forward.injEq, found]
      simp
    | some hub =>
      unfold handleFrame
      dsimp only
      by_cases four : version pkt = 4
      · rw [not_signaling_of_version_four four, if_neg Bool.false_ne_true,
          FrameDispatch.forward.injEq, found]
        simp [four]
      · rw [signaling_of_version _long four]
        simp [four]
  · intro hub msg present decoded defined
    rw [present]
    exact handleFrame_signal decoded defined

def dualTable : PeerTable Nat :=
  (PeerTable.new.register [10, 7, 0, 3] 3).register
    [0xfd, 0, 0, 0, 0, 0, 0, 0, 0, 0, 0, 0, 0, 0, 0, 9] 9

def packetV4 : List UInt8 :=
  [0x45, 0, 0, 20, 0, 0, 0, 0, 64, 59, 0, 0, 10, 7, 0, 2, 10, 7, 0, 3]

def packetV6 : List UInt8 :=
  [0x60, 0, 0, 0, 0, 0, 59, 64] ++ [0xfd, 0, 0, 0, 0, 0, 0, 0, 0, 0, 0, 0, 0, 0, 0, 8] ++
    [0xfd, 0, 0, 0, 0, 0, 0, 0, 0, 0, 0, 0, 0, 0, 0, 9]

theorem packetV4_forwarded :
    handleFrame (some Hub.new) dualTable (fun _ => false) packetV4 [10, 7, 0, 2] =
      .forward ⟨[(3, packetV4)], true⟩ :=
  ((frame_classification (some Hub.new) dualTable
    (.register _ _ (.register _ _ .new)) (fun _ => false) packetV4 (by decide) [10, 7, 0, 2]).1 3
    (.inl ⟨by decide, by decide⟩) (by decide)).mpr (.inl (by decide))

/-- The IPv6 packet is forwarded without a hub; with one it is taken for a message, which is refused
because it does not name its sender. -/
theorem packetV6_taken_for_message :
    handleFrame none dualTable (fun _ => false) packetV6 [10, 7, 0, 2] =
        .forward ⟨[(9, packetV6)], true⟩ ∧
      handleFrame (some Hub.new) dualTable (fun _ => false) packetV6 [10, 7, 0, 2] =
        .signal ⟨[], some (.srcMismatch [0, 0, 0, 0] [10, 7, 0, 2])⟩ :=
  by decide +kernel

/-! ## Streams -/

/-- Where a run of `HandleMeshStream` stands; its deferred calls run in the opposite order. -/
inductive Stage where
  | allocated
  | greeted
  | listed
  /-- The hub, when there is one, has it too, and frames are read. -/
  | serving
  | leavingHub
  | leavingTable
  | releasing
deriving DecidableEq

def Stage.inTable : Stage → Bool
  | .listed | .serving | .leavingHub | .leavingTable => true
  | .allocated | .greeted | .releasing => false

def Stage.inHub : Stage → Bool
  | .serving | .leavingHub => true
  | .allocated | .greeted | .listed | .leavingTable | .releasing => false

inductive StreamRun where
  | waiting
  | live (ip : IP) (stage : Stage)
  | finished

def StreamRun.ip : StreamRun → Option IP
  | .live ip _ => some ip
  | .waiting | .finished => none

def StreamRun.within (stages : Stage → Bool) : StreamRun → Bool
  | .live _ stage => stages stage
  | .waiting | .finished => false

structure MeshServer where
  allocator : IPAllocator
  peerTable : PeerTable Nat
  signalHub : Option (Hub Nat)
  streams : Nat → StreamRun

inductive MeshCall where
  | allocate (id : Nat)
  | handshake (id : Nat) (ok : Bool)
  | register (id : Nat)
  | registerHub (id : Nat)
  | frame (id : Nat) (pkt : List UInt8)
  | disconnect (id : Nat)
  | unregisterHub (id : Nat)
  | unregister (id : Nat)
  | release (id : Nat)

namespace MeshServer

variable (server : MeshServer)

def move (id : Nat) (run : StreamRun) : MeshServer :=
  { server with streams := update server.streams id run }

def callAt (id : Nat) (stage : Stage) (call : IP → Option MeshServer) : Option MeshServer :=
  match server.streams id with
  | .live ip now => if now = stage then call ip else none
  | .waiting | .finished => none

def onHub (call : Hub Nat → Hub Nat) : MeshServer :=
  { server with signalHub := server.signalHub.map call }

def allocateFor (id : Nat) : Option MeshServer :=
  match server.streams id with
  | .waiting =>
    match server.allocator.allocate with
    | some (.ok (ip, allocator)) =>
      some ({ server with allocator := allocator }.move id (.live ip .allocated))
    | some (.error _) => some (server.move id .finished)
    | none => none
  | .live _ _ | .finished => none

/-- One call; a panic of the allocator has no next state. -/
def step : MeshCall → Option MeshServer
  | .allocate id => server.allocateFor id
  | .handshake id ok =>
    server.callAt id .allocated fun ip =>
      some (server.move id (.live ip (if ok then .greeted else .releasing)))
  | .register id =>
    server.callAt id .greeted fun ip =>
      some ({ server with peerTable := server.peerTable.register ip id }.move id (.live ip .listed))
  | .registerHub id =>
    server.callAt id .listed fun ip =>
      some ((server.onHub fun hub => hub.register ip id).move id (.live ip .serving))
  | .frame id _ => server.callAt id .serving fun _ => some server
  | .disconnect id =>
    server.callAt id .serving fun ip => some (server.move id (.live ip .leavingHub))
  | .unregisterHub id =>
    server.callAt id .leavingHub fun ip =>
      some ((server.onHub fun hub => hub.unregister ip).move id (.live ip .leavingTable))
  | .unregister id =>
    server.callAt id .leavingTable fun ip =>
      some ({ server with peerTable := server.peerTable.unregister ip }.move id
        (.live ip .releasing))
  | .release id =>
    server.callAt id .releasing fun ip =>
      match server.allocator.release ip with
      | some allocator => some ({ server with allocator := allocator }.move id .finished)
      | none => none

def machine : Machine MeshServer MeshCall := ⟨step⟩

def start (allocator : IPAllocator) (p2pEnabled : Bool) : MeshServer :=
  ⟨allocator, PeerTable.new, if p2pEnabled then some Hub.new else none, fun _ => .waiting⟩

def held (id : Nat) : Option IP := (server.streams id).ip

structure Owned (server : MeshServer) : Prop where
  unique : ∀ left right ip, server.held left = some ip → server.held right = some ip → left = right
  table : ∀ key writer, server.peerTable.peers key = some writer →
    ∃ ip, server.held writer = some ip ∧ vipKey ip = key
  hub : ∀ hub key peer, server.signalHub = some hub → hub.peers key = some peer →
    ∃ ip, server.held peer.writer = some ip ∧ hubVIPKey ip = key

/-! ### Leases -/

/-- The runs as holders of keys, listed at some of their stages. -/
def leases (stages : Stage → Bool) (entries : Addr → Option Nat) (streams : Nat → StreamRun) :
    Leases Nat Addr :=
  ⟨fun id => (streams id).ip.map vipKey, fun id => (streams id).within stages, entries⟩

section Leases

variable {stages : Stage → Bool} {entries : Addr → Option Nat} {streams : Nat → StreamRun}
  {id : Nat} {ip : IP} {stage next : Stage}

theorem leases_update (run : StreamRun) :
    leases stages entries (update streams id run) =
      ⟨update (leases stages entries streams).holds id (run.ip.map vipKey),
        update (leases stages entries streams).listed id (run.within stages),
        entries⟩ := by
  unfold leases
  congr
  · exact comp_update (fun run => run.ip.map vipKey) streams id run
  · exact comp_update (StreamRun.within stages) streams id run

theorem leases_holds (now : streams id = .live ip stage) :
    (leases stages entries streams).holds id = some (vipKey ip) :=
  congrArg (fun run => run.ip.map vipKey) now

theorem leases_hidden {run : StreamRun} (before : (streams id).within stages = false)
    (after : run.within stages = false) :
    leases stages entries (update streams id run) =
      ⟨update (leases stages entries streams).holds id (run.ip.map vipKey),
        (leases stages entries streams).listed, entries⟩ := by
  rw [leases_update]
  congr
  exact update_eq_self_iff.mpr (after.trans before.symm)

theorem leases_move (now : streams id = .live ip stage) (next : Stage) :
    leases stages entries (update streams id (.live ip next)) =
      ⟨(leases stages entries streams).holds,
        update (leases stages entries streams).listed id (stages next), entries⟩ := by
  rw [leases_update]
  congr
  exact update_eq_self_iff.mpr (leases_holds now).symm

variable (sound : (leases stages entries streams).Sound)
include sound

theorem sound_stay (now : streams id = .live ip stage) (same : stages next = stages stage) :
    (leases stages entries (update streams id (.live ip next))).Sound := by
  have listed : (leases stages entries streams).listed id = stages next :=
    (congrArg (StreamRun.within stages) now).trans same.symm
  rw [leases_move now, update_eq_self_iff.mpr listed.symm]
  exact sound

theorem sound_register (now : streams id = .live ip stage) (shown : stages next = true) :
    (leases stages (update entries (vipKey ip) (some id))
      (update streams id (.live ip next))).Sound := by
  rw [leases_move now, shown]
  exact sound.publish (leases_holds now)

theorem sound_unregister (now : streams id = .live ip stage) (hidden : stages next = false) :
    (leases stages (update entries (vipKey ip) none)
      (update streams id (.live ip next))).Sound := by
  rw [leases_move now, hidden]
  exact sound.withdraw (leases_holds now)

theorem sound_allocate (now : streams id = .waiting) (hidden : stages next = false)
    (free : ∀ other, (leases stages entries streams).holds other ≠ some (vipKey ip)) :
    (leases stages entries (update streams id (.live ip next))).Sound := by
  have unlisted : (streams id).within stages = false := congrArg (StreamRun.within stages) now
  have after : (StreamRun.live ip next).within stages = false := hidden
  rw [leases_hidden unlisted after]
  exact sound.acquire unlisted free

theorem sound_finish (hidden : (streams id).within stages = false) :
    (leases stages entries (update streams id .finished)).Sound := by
  rw [leases_hidden hidden rfl]
  exact sound.release hidden

end Leases

/-! ### Runs -/

def Issued (network : IPNet) (four : IP) (size : Nat) (allocator : IPAllocator)
    (held : Nat → Option IP) : Prop :=
  ∃ outstanding, IPAllocator.Tracks network (ofBe four) size outstanding allocator ∧
    ∀ ip, ip ∈ outstanding ↔ ∃ id, held id = some ip

/-- The allocator has issued exactly the held addresses, and the streams' leases are sound for the
peer table and for the hub. -/
structure Tracked (network : IPNet) (four : IP) (size : Nat) (server : MeshServer) : Prop where
  issued : Issued network four size server.allocator server.held
  table : (leases Stage.inTable server.peerTable.peers server.streams).Sound
  hub : ∀ hub, server.signalHub = some hub →
    (leases Stage.inHub hub.writers server.streams).Sound

theorem callAt_some {server result : MeshServer} {id : Nat} {stage : Stage}
    {call : IP → Option MeshServer} (called : server.callAt id stage call = some result) :
    ∃ ip, server.streams id = .live ip stage ∧ call ip = some result := by
  unfold callAt at called
  split at called
  · rename_i ip now found
    split at called
    · rename_i same
      rw [same] at found
      exact ⟨ip, found, called⟩
    · cases called
  · cases called
  · cases called

theorem held_move {server : MeshServer} {id : Nat} {ip : IP} {stage : Stage}
    (now : server.streams id = .live ip stage) (next : Stage) :
    (server.move id (.live ip next)).held = server.held := by
  have same : server.held id = some ip := congrArg StreamRun.ip now
  have moved : (server.move id (.live ip next)).held = update server.held id (some ip) :=
    comp_update StreamRun.ip server.streams id (.live ip next)
  rw [moved, update_eq_self_iff.mpr same.symm]

section Steps

variable {network : IPNet} {four : IP} {size : Nat} {server : MeshServer} {id : Nat} {ip : IP}
  {stage : Stage}

variable (tracked : Tracked network four size server)

include tracked

theorem Tracked.unique {left right : Nat}
    (leftHolds : server.held left = some ip) (rightHolds : server.held right = some ip) :
    left = right :=
  tracked.table.unique (congrArg (Option.map vipKey) leftHolds)
    (congrArg (Option.map vipKey) rightHolds)

theorem Tracked.exhausted (now : server.streams id = .waiting) :
    Tracked network four size (server.move id .finished) where
  issued := by
    have idle : server.held id = none := congrArg StreamRun.ip now
    have moved : (server.move id .finished).held = server.held := by
      have update : (server.move id .finished).held = update server.held id none :=
        comp_update StreamRun.ip server.streams id .finished
      rw [update, update_eq_self_iff.mpr idle.symm]
    rw [moved]
    exact tracked.issued
  table := sound_finish tracked.table (congrArg (StreamRun.within Stage.inTable) now)
  hub hub present :=
    sound_finish (tracked.hub hub present) (congrArg (StreamRun.within Stage.inHub) now)

theorem Tracked.issued_move (now : server.streams id = .live ip stage) (next : Stage) :
    Issued network four size server.allocator (server.move id (.live ip next)).held := by
  rw [held_move now]
  exact tracked.issued

theorem Tracked.stay (now : server.streams id = .live ip stage) {next : Stage}
    (table : next.inTable = stage.inTable) (hub : next.inHub = stage.inHub) :
    Tracked network four size (server.move id (.live ip next)) where
  issued := tracked.issued_move now _
  table := sound_stay tracked.table now table
  hub _ present := sound_stay (tracked.hub _ present) now hub

theorem Tracked.owned : server.Owned where
  unique _ _ _ leftHolds rightHolds := tracked.unique leftHolds rightHolds
  table key writer found := by
    have ⟨holds, _⟩ := (tracked.table.exact key writer).mp found
    exact Option.map_eq_some_iff.mp holds
  hub hub key peer present found := by
    have listed : hub.writers key = some peer.writer := congrArg (Option.map PeerConn.writer) found
    have ⟨holds, _⟩ := ((tracked.hub hub present).exact key peer.writer).mp listed
    exact Option.map_eq_some_iff.mp holds

variable {allocator : IPAllocator} (short : to4 network.ip = some four)
  (fits : IPAllocator.Fits (ofBe four) size)

include short fits

theorem Tracked.allocate_fresh
    (allocated : server.allocator.allocate = some (.ok (ip, allocator))) (other : Nat) :
    (server.streams other).ip.map vipKey ≠ some (vipKey ip) := by
  have ⟨outstanding, tracks, members⟩ := tracked.issued
  have ⟨absent, _⟩ := (tracks.servesLowest short fits).reserved ip allocator allocated
  have ipShort := (tracks.allocate short fits allocated).length (Finset.mem_insert_self ip _)
  intro holds
  have ⟨taken, held, same⟩ := Option.map_eq_some_iff.mp holds
  have member : taken ∈ outstanding := (members taken).mpr ⟨other, held⟩
  have equal := vipKey_injective (tracks.length member) ipShort same
  rw [equal] at member
  exact absent member

theorem Tracked.allocate
    (now : server.streams id = .waiting)
    (allocated : server.allocator.allocate = some (.ok (ip, allocator))) :
    Tracked network four size
      ({ server with allocator := allocator }.move id (.live ip .allocated)) where
  issued := by
    have ⟨outstanding, tracks, members⟩ := tracked.issued
    refine ⟨insert ip outstanding, tracks.allocate short fits allocated, fun other => ?_⟩
    have idle : server.held id = none := congrArg StreamRun.ip now
    have moved : ({ server with allocator := allocator }.move id (.live ip .allocated)).held =
        update server.held id (some ip) :=
      comp_update StreamRun.ip server.streams id (.live ip .allocated)
    rw [Finset.mem_insert, members, moved]
    constructor
    · rintro (same | ⟨holder, holds⟩)
      · exact ⟨id, by rw [update_self, same]⟩
      · refine ⟨holder, ?_⟩
        rw [update_of_ne, holds]
        intro same
        rw [same, idle] at holds
        cases holds
    · rintro ⟨holder, holds⟩
      by_cases same : holder = id
      · rw [same, update_self] at holds
        exact .inl (Option.some.inj holds).symm
      · rw [update_of_ne same] at holds
        exact .inr ⟨holder, holds⟩
  table := by
    have fresh := tracked.allocate_fresh short fits allocated
    exact sound_allocate tracked.table now rfl fresh
  hub hub present := by
    have fresh := tracked.allocate_fresh short fits allocated
    exact sound_allocate (tracked.hub hub present) now rfl fresh

theorem Tracked.release
    (now : server.streams id = .live ip .releasing)
    (released : server.allocator.release ip = some allocator) :
    Tracked network four size ({ server with allocator := allocator }.move id .finished) where
  issued := by
    have ⟨outstanding, tracks, members⟩ := tracked.issued
    have holds : server.held id = some ip := congrArg StreamRun.ip now
    have member : ip ∈ outstanding := (members ip).mpr ⟨id, holds⟩
    have form : to4 ip = some ip := to4_four (tracks.length member)
    refine ⟨outstanding.erase ip, tracks.release short fits form member released, fun other => ?_⟩
    have moved : ({ server with allocator := allocator }.move id .finished).held =
        update server.held id none :=
      comp_update StreamRun.ip server.streams id .finished
    rw [Finset.mem_erase, members, moved]
    constructor
    · rintro ⟨apart, holder, otherHolds⟩
      refine ⟨holder, ?_⟩
      rw [update_of_ne, otherHolds]
      intro same
      rw [same, holds] at otherHolds
      exact apart (Option.some.inj otherHolds).symm
    · rintro ⟨holder, otherHolds⟩
      by_cases same : holder = id
      · rw [same, update_self] at otherHolds
        cases otherHolds
      · rw [update_of_ne same] at otherHolds
        refine ⟨fun equal => same ?_, holder, otherHolds⟩
        rw [equal] at otherHolds
        exact tracked.unique otherHolds holds
  table := sound_finish tracked.table (congrArg (StreamRun.within Stage.inTable) now)
  hub hub present :=
    sound_finish (tracked.hub hub present) (congrArg (StreamRun.within Stage.inHub) now)

theorem Tracked.step {call : MeshCall} {next : MeshServer} (stepped : server.step call = some next) :
    Tracked network four size next := by
  cases call with
  | allocate id =>
    have begun : server.allocateFor id = some next := stepped
    unfold allocateFor at begun
    split at begun
    · rename_i now
      split at begun
      · rename_i ip allocator allocated
        cases begun
        exact tracked.allocate short fits now allocated
      · cases begun
        exact tracked.exhausted now
      · cases begun
    · cases begun
    · cases begun
  | handshake id ok =>
    have ⟨ip, now, moved⟩ := callAt_some stepped
    cases moved
    cases ok with
    | true | false => exact tracked.stay now rfl rfl
  | register id =>
    have ⟨ip, now, moved⟩ := callAt_some stepped
    cases moved
    exact ⟨tracked.issued_move now _, sound_register tracked.table now rfl,
      fun _ present => sound_stay (tracked.hub _ present) now rfl⟩
  | registerHub id =>
    have ⟨ip, now, moved⟩ := callAt_some stepped
    cases moved
    refine ⟨tracked.issued_move now _, sound_stay tracked.table now rfl, fun hub present => ?_⟩
    have ⟨before, had, same⟩ := Option.map_eq_some_iff.mp present
    rw [← same, Hub.writers_register]
    exact sound_register (tracked.hub before had) now rfl
  | frame id pkt =>
    have ⟨ip, _, kept⟩ := callAt_some stepped
    cases kept
    exact tracked
  | disconnect id =>
    have ⟨ip, now, moved⟩ := callAt_some stepped
    cases moved
    exact tracked.stay now rfl rfl
  | unregisterHub id =>
    have ⟨ip, now, moved⟩ := callAt_some stepped
    cases moved
    refine ⟨tracked.issued_move now _, sound_stay tracked.table now rfl, fun hub present => ?_⟩
    have ⟨before, had, same⟩ := Option.map_eq_some_iff.mp present
    rw [← same, Hub.writers_unregister]
    exact sound_unregister (tracked.hub before had) now rfl
  | unregister id =>
    have ⟨ip, now, moved⟩ := callAt_some stepped
    cases moved
    exact ⟨tracked.issued_move now _, sound_unregister tracked.table now rfl,
      fun _ present => sound_stay (tracked.hub _ present) now rfl⟩
  | release id =>
    have ⟨ip, now, moved⟩ := callAt_some stepped
    split at moved
    · rename_i allocator released
      cases moved
      exact tracked.release short fits now released
    · cases moved

end Steps

theorem start_tracked {network : IPNet} {four : IP} {size : Nat} {allocator : IPAllocator}
    (tracks : IPAllocator.Tracks network (ofBe four) size ∅ allocator) (p2pEnabled : Bool) :
    Tracked network four size (start allocator p2pEnabled) where
  issued := by
    refine ⟨∅, tracks, fun ip => ⟨fun member => absurd member (Finset.notMem_empty ip), ?_⟩⟩
    rintro ⟨id, holds⟩
    cases holds
  table := ⟨nofun, fun key id => ⟨nofun, nofun⟩⟩
  hub hub present := by
    cases p2pEnabled with
    | false => cases present
    | true =>
      cases present
      exact ⟨nofun, fun key id => ⟨nofun, nofun⟩⟩

theorem newIPAllocator_tracks {cidr : GoString} {allocator : IPAllocator}
    (created : newIPAllocator cidr = some (.ok allocator)) :
    ∃ network four, to4 network.ip = some four ∧
      IPAllocator.Fits (ofBe four) (2 ^ network.hostBits) ∧
      IPAllocator.Tracks network (ofBe four) (2 ^ network.hostBits) ∅ allocator := by
  cases parsed : parseCIDR cidr with
  | none =>
    unfold newIPAllocator at created
    rw [parsed] at created
    cases created
  | some network =>
    cases short : to4 network.ip with
    | none =>
      unfold newIPAllocator at created
      simp only [parsed, short] at created
      cases created
    | some four =>
      have ⟨fits, made⟩ := IPAllocator.newIPAllocator_ok parsed short
      rw [made] at created
      cases created
      exact ⟨network, four, short, fits, rfl, rfl, Cursor.issues_empty _ _ _⟩

/-- In every interleaving no two streams hold one address, and every entry of the peer table and of
the hub is the writer of the stream that holds its address. -/
theorem streams_own_addresses (cidr : GoString) (allocator : IPAllocator)
    (created : newIPAllocator cidr = some (.ok allocator)) (p2pEnabled : Bool)
    (calls : List MeshCall) : machine.Always Owned (start allocator p2pEnabled) calls := by
  have ⟨network, four, short, fits, tracks⟩ := newIPAllocator_tracks created
  intro before after reached _ ran
  have tracked : Tracked network four (2 ^ network.hostBits) reached :=
    Machine.run_invariant (Tracked network four (2 ^ network.hostBits))
      (fun tracked stepped => tracked.step short fits stepped) before
      (start_tracked tracks p2pEnabled) ran
  exact tracked.owned

theorem streams_own_addresses_slash24 :
    ∃ allocator, newIPAllocator (lit "10.7.0.0/24") = some (.ok allocator) ∧
      ∀ calls, machine.Always Owned (start allocator true) calls := by
  have parsed : parseCIDR (lit "10.7.0.0/24") = some ⟨[10, 7, 0, 0], [255, 255, 255, 0]⟩ := by
    decide +kernel
  have ⟨_, created⟩ := IPAllocator.newIPAllocator_ok parsed rfl
  exact ⟨_, created, streams_own_addresses (lit "10.7.0.0/24") _ created true⟩

end MeshServer

end Shuttle.Server
