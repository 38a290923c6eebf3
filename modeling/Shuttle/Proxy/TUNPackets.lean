import Shuttle.Proxy.TUN

/-!
# Packets that the TUN inbound builds

`buildTCPPacketAddr` and `buildUDPPacketAddr` write a packet field by field into a buffer of a pool,
which is not cleared. Identification and fragment offset of an IPv4 header and the urgent pointer of
a segment are not written: the packet has there what the buffer held.
-/

namespace Shuttle.Proxy

open Shuttle.Go List

def checksumData (sum : Nat) : List UInt8 → Nat
  | [] => sum
  | [last] => (sum + last.toNat * 256) % 2 ^ 32
  | high :: low :: rest => checksumData ((sum + (high.toNat * 256 + low.toNat)) % 2 ^ 32) rest

def checksumFold (sum : Nat) : Nat :=
  if sum ≤ 0xffff then sum else checksumFold (sum / 2 ^ 16 + sum % 2 ^ 16)
termination_by sum

/-- The sum of 16-bit words, an odd byte at the end filled up with zero. -/
def wordSum : List UInt8 → Nat
  | [] => 0
  | [last] => last.toNat * 256
  | high :: low :: rest => high.toNat * 256 + low.toNat + wordSum rest

inductive Ends where
  | v4 (src dst : UInt32)
  | v6 (src dst : BitVec 128)

/-- The arguments of `buildTCPPacketAddr`, or of `buildUDPPacketAddr` without numbers and flags. -/
structure PacketArgs where
  ends : Ends
  srcPort : UInt16
  dstPort : UInt16
  tcp : Option (UInt32 × UInt32 × UInt8)
  payload : List UInt8
  tos : UInt8

namespace PacketArgs

variable (args : PacketArgs)

def ipLen : Nat :=
  match args.ends with
  | .v4 .. => 20
  | .v6 .. => ipv6HeaderLen

def addresses : List UInt8 :=
  match args.ends with
  | .v4 src dst => beBytes 4 src.toNat ++ beBytes 4 dst.toNat
  | .v6 src dst => beBytes 16 src.toNat ++ beBytes 16 dst.toNat

def proto : UInt8 := if args.tcp.isSome then protoTCP else protoUDP

/-- `tcpLen` or `udpLen`. -/
def segmentLen : Nat := (if args.tcp.isSome then 20 else 8) + args.payload.length

def totalLen : Nat := args.ipLen + args.segmentLen

def pseudo : List UInt8 :=
  match args.ends with
  | .v4 .. => args.addresses ++ [0, args.proto] ++ beBytes 2 args.segmentLen
  | .v6 .. => args.addresses ++ beBytes 4 args.segmentLen ++ [0, 0, 0, args.proto]

/-- The segment up to its checksum. -/
def front : List UInt8 :=
  beBytes 2 args.srcPort.toNat ++ beBytes 2 args.dstPort.toNat ++
    match args.tcp with
    | some (seq, ack, flags) =>
      beBytes 4 seq.toNat ++ beBytes 4 ack.toNat ++ [0x50, flags, 0xff, 0xff]
    | none => beBytes 2 args.segmentLen

variable (old : List UInt8)

/-- The segment behind its checksum; the urgent pointer is what the buffer held. -/
def behind : List UInt8 :=
  match args.tcp with
  | some _ => old.getD (args.ipLen + 18) 0 :: old.getD (args.ipLen + 19) 0 :: args.payload
  | none => args.payload

def segmentSum : Nat :=
  checksumData (checksumData 0 args.pseudo) (args.front ++ [0, 0] ++ args.behind old)

def checksum : Nat :=
  let csum := 0xffff - checksumFold (args.segmentSum old)
  if args.tcp.isNone ∧ csum = 0 then 0xffff else csum

def segment : List UInt8 := args.front ++ beBytes 2 (args.checksum old) ++ args.behind old

/-- An IPv4 header up to its checksum. -/
def header4 : List UInt8 :=
  [0x45, args.tos] ++ beBytes 2 args.totalLen ++
    [old.getD 4 0, old.getD 5 0, old.getD 6 0, old.getD 7 0, 64, args.proto]

def header : List UInt8 :=
  match args.ends with
  | .v4 .. =>
    let sum := checksumData 0 (args.header4 old ++ [0, 0] ++ args.addresses)
    args.header4 old ++ beBytes 2 (0xffff - checksumFold sum) ++ args.addresses
  | .v6 .. =>
    [(0x60 : UInt8) ||| args.tos >>> 4, args.tos <<< 4, 0, 0] ++ beBytes 2 args.segmentLen ++
      [args.proto, 64] ++ args.addresses

/-- `buildTCPPacketAddr` and `buildUDPPacketAddr`, in a buffer that held these bytes. -/
def packet : List UInt8 := args.header old ++ args.segment old

end PacketArgs

/-! ## Checksums -/

theorem checksumFold_spec (sum : Nat) :
    checksumFold sum % 65535 = sum % 65535 ∧ checksumFold sum ≤ 65535 ∧
      (checksumFold sum = 0 ↔ sum = 0) := by
  induction sum using checksumFold.induct with
  | case1 sum small =>
    rw [checksumFold, if_pos small]
    omega
  | case2 sum large ih =>
    rw [checksumFold, if_neg large]
    omega

theorem wordSum_append {front : List UInt8} (even : front.length % 2 = 0) (behind : List UInt8) :
    wordSum (front ++ behind) = wordSum front + wordSum behind := by
  fun_induction wordSum front with
  | case1 => simp
  | case2 => simp at even
  | case3 high low rest ih =>
    rw [length_cons, length_cons] at even
    rw [cons_append, cons_append, wordSum, ih (by omega)]
    omega

theorem wordSum_le (bytes : List UInt8) : wordSum bytes ≤ 65535 * ((bytes.length + 1) / 2) := by
  fun_induction wordSum bytes with
  | case1 => simp
  | case2 last =>
    have := last.toNat_lt
    simp only [length_singleton]
    omega
  | case3 high low rest ih =>
    have := high.toNat_lt
    have := low.toNat_lt
    simp only [length_cons]
    omega

theorem checksumData_eq {sum : Nat} {bytes : List UInt8} (fits : sum + wordSum bytes < 2 ^ 32) :
    checksumData sum bytes = sum + wordSum bytes := by
  fun_induction checksumData sum bytes with
  | case1 => rfl
  | case2 sum last =>
    rw [wordSum] at fits ⊢
    exact Nat.mod_eq_of_lt fits
  | case3 sum high low rest ih =>
    rw [wordSum] at fits ⊢
    rw [ih (by omega)]
    omega

/-- The ones-complement sum of the bytes is all ones, and a 32-bit accumulator does not wrap. -/
def AllOnes (bytes : List UInt8) : Prop :=
  wordSum bytes < 2 ^ 32 ∧ wordSum bytes % 65535 = 0 ∧ wordSum bytes ≠ 0

/-- A field with the complement of the sum of the others, or of the same residue, makes the sum all
ones. -/
theorem checksummed {front behind : List UInt8} (even : front.length % 2 = 0) {csum : Nat}
    (complement : csum = 0xffff - checksumFold (wordSum (front ++ [0, 0] ++ behind)) ∨
      csum = 0xffff ∧ 0xffff - checksumFold (wordSum (front ++ [0, 0] ++ behind)) = 0) :
    wordSum (front ++ beBytes 2 csum ++ behind) % 65535 = 0 ∧
      wordSum (front ++ beBytes 2 csum ++ behind) ≠ 0 := by
  have whole (field : List UInt8) (two : field.length = 2) : wordSum (front ++ field ++ behind) =
      wordSum front + wordSum field + wordSum behind := by
    rw [append_assoc, wordSum_append even, wordSum_append (by rw [two])]
    omega
  have field : wordSum (beBytes 2 csum) = csum := by
    simp [beBytes, wordSum]
    omega
  have zeroed := whole [0, 0] rfl
  have filled := whole (beBytes 2 csum) (beBytes_length 2 csum)
  rw [field] at filled
  simp only [wordSum, UInt8.toNat_zero] at zeroed
  have others := checksumFold_spec (wordSum (front ++ [0, 0] ++ behind))
  omega

theorem word16_beBytes {value position : Nat} {bytes : List UInt8} (fits : value < 65536)
    (here : (bytes.drop position).take 2 = beBytes 2 value) :
    (word16 bytes position).toNat = value := by
  rw [word16, here, ofBe_beBytes_of_lt fits, UInt16.toNat_ofNat']
  exact Nat.mod_eq_of_lt fits

theorem word32_beBytes {value : UInt32} {position : Nat} {bytes : List UInt8}
    (here : (bytes.drop position).take 4 = beBytes 4 value.toNat) :
    word32 bytes position = value := by
  rw [word32, here, ofBe_beBytes_of_lt value.toNat_lt, UInt32.ofNat_toNat]

theorem ofNat_ofBe_beBytes (value : BitVec 128) :
    BitVec.ofNat 128 (ofBe (beBytes 16 value.toNat)) = value := by
  rw [ofBe_beBytes_of_lt (Nat.lt_of_lt_of_le value.isLt (by decide)), BitVec.ofNat_toNat,
    BitVec.setWidth_eq]

/-- The flow and the payload that `handleTCP` and `handleUDP` take from a packet. -/
def Ingress.read : Ingress → Option (NatKey × List UInt8)
  | .tcp src dst data =>
    if data.length < 20 then none else some (natKey src dst data, tcpPayload data)
  | .udp src dst _ data =>
    if data.length < 8 then none else some (natKey src dst data, data.drop 8)
  | _ => none

namespace PacketArgs

variable (args : PacketArgs) (old : List UInt8)

theorem segment_length : (args.segment old).length = args.segmentLen := by
  unfold segment segmentLen front behind
  cases args.tcp <;> simp <;> omega

theorem header_length : (args.header old).length = args.ipLen := by
  unfold header ipLen header4 addresses
  cases args.ends <;> simp [ipv6HeaderLen]

theorem packet_length : (args.packet old).length = args.totalLen := by
  rw [packet, length_append, header_length, segment_length, totalLen]

theorem read_segment (src dst : Addr) (start : Nat) :
    (Ingress.ofProto args.proto src dst start (args.segment old)).read =
      some (⟨src, dst, args.srcPort, args.dstPort⟩, args.payload) := by
  have long := args.segment_length old
  have ports : natKey src dst (args.segment old) = ⟨src, dst, args.srcPort, args.dstPort⟩ := by
    rw [natKey, UInt16.toNat_inj.mp (word16_beBytes args.srcPort.toNat_lt rfl),
      UInt16.toNat_inj.mp (word16_beBytes args.dstPort.toNat_lt rfl)]
  obtain ⟨ends, srcPort, dstPort, _ | ⟨seq, ack, flags⟩, payload, tos⟩ := args
  · show (Ingress.ofProto protoUDP _ _ _ _).read = _
    rw [Ingress.ofProto, if_neg (by decide), if_pos rfl, Ingress.read, if_neg, ports]
    · rfl
    · simp [long, segmentLen]
  · show (Ingress.ofProto protoTCP _ _ _ _).read = _
    rw [Ingress.ofProto, if_pos rfl, Ingress.read, if_neg, ports, tcpPayload, tcpDataOff]
    · show some (_, drop (((0x50 : UInt8) >>> 4).toNat * 4) _) = _
      rw [show ((0x50 : UInt8) >>> 4).toNat * 4 = 20 by decide]
      rfl
    · simp [long, segmentLen]

theorem read_v4 {src dst : UInt32} (ends : args.ends = .v4 src dst) (fits : args.totalLen ≤ 65535)
    (config : TUNConfig) : (handleIPv4 config (args.packet old)).read =
      if config.isMeshDestination.any fun isMesh => isMesh (beBytes 4 dst.toNat) then none
      else some (⟨.v4 src, .v4 dst, args.srcPort, args.dstPort⟩, args.payload) := by
  have long := args.packet_length old
  have whole := take_of_length_le (Nat.le_of_eq long)
  have parsed := args.read_segment old
  have least : args.totalLen = 20 + args.segmentLen := by rw [totalLen, ipLen, ends]
  obtain ⟨first, total, proto, srcIP, dstIP, dst4, behind⟩ : (args.packet old).getD 0 0 = 0x45 ∧
      (word16 (args.packet old) 2).toNat = args.totalLen ∧
      (args.packet old).getD 9 0 = args.proto ∧ word32 (args.packet old) 12 = src ∧
      word32 (args.packet old) 16 = dst ∧
      ((args.packet old).drop 16).take 4 = beBytes 4 dst.toNat ∧
      (args.packet old).drop 20 = args.segment old := by
    obtain ⟨_, _, _, _, _, _⟩ := args
    cases ends
    exact ⟨rfl, word16_beBytes (by omega) rfl, rfl, word32_beBytes rfl, word32_beBytes rfl, rfl,
      rfl⟩
  have ihl : ((0x45 : UInt8) &&& 0x0f).toNat * 4 = 20 := by decide
  rw [handleIPv4]
  simp only [first, ihl, total, long, Nat.min_self, whole, behind, srcIP, dstIP, proto, dst4]
  rw [if_neg (by omega), if_neg (by omega), if_neg (by omega)]
  split
  · rfl
  · exact parsed _ _ _

theorem read_v6 {src dst : BitVec 128} (ends : args.ends = .v6 src dst)
    (fits : args.totalLen ≤ 65535) : (handleIPv6 (args.packet old)).read =
      some (⟨.v6 src [], .v6 dst [], args.srcPort, args.dstPort⟩, args.payload) := by
  have long := args.packet_length old
  have whole := take_of_length_le (Nat.le_of_eq (args.segment_length old))
  have parsed := args.read_segment old
  have least : args.totalLen = ipv6HeaderLen + args.segmentLen := by rw [totalLen, ipLen, ends]
  obtain ⟨total, proto, src16, dst16, behind⟩ :
      (word16 (args.packet old) 4).toNat = args.segmentLen ∧
      (args.packet old).getD 6 0 = args.proto ∧
      ((args.packet old).drop 8).take 16 = beBytes 16 src.toNat ∧
      ((args.packet old).drop 24).take 16 = beBytes 16 dst.toNat ∧
      (args.packet old).drop ipv6HeaderLen = args.segment old := by
    obtain ⟨_, _, _, _, _, _⟩ := args
    cases ends
    exact ⟨word16_beBytes (by omega) rfl, rfl, rfl, rfl, rfl⟩
  rw [handleIPv6, if_neg (by omega)]
  simp only [total, long, least, Nat.add_sub_cancel_left, Nat.min_self, src16, dst16, proto,
    behind, ofNat_ofBe_beBytes, whole]
  exact parsed _ _ _

theorem pseudo_even : args.pseudo.length % 2 = 0 ∧ args.pseudo.length ≤ 40 := by
  unfold pseudo addresses
  cases args.ends <;> simp

theorem front_even : args.front.length % 2 = 0 := by
  unfold front
  cases args.tcp <;> simp

/-- The arguments of a packet that is at most 65535 bytes long. -/
structure Fitting extends PacketArgs where
  fits : toPacketArgs.totalLen ≤ 65535

theorem wordSum_lt {bytes : List UInt8} (short : bytes.length < 70000) :
    wordSum bytes < 2 ^ 32 := by
  have := wordSum_le bytes
  omega

theorem segmentSum_eq (fits : args.totalLen ≤ 65535) : args.segmentSum old =
    wordSum (args.pseudo ++ args.front ++ [0, 0] ++ args.behind old) := by
  have ⟨even, few⟩ := args.pseudo_even
  have long := args.segment_length old
  have total : args.segmentLen ≤ args.totalLen := Nat.le_add_left ..
  have bound : wordSum (args.pseudo ++ (args.front ++ [0, 0] ++ args.behind old)) < 2 ^ 32 := by
    apply wordSum_lt
    simp [segment] at long ⊢
    omega
  rw [wordSum_append even] at bound
  have pseudo := @checksumData_eq 0 args.pseudo (by omega)
  rw [Nat.zero_add] at pseudo
  rw [segmentSum, pseudo, checksumData_eq bound, ← wordSum_append even]
  simp only [append_assoc]

theorem header_allOnes {src dst : UInt32} (ends : args.ends = .v4 src dst) :
    AllOnes (args.header old) := by
  have sum := @checksumData_eq 0 (args.header4 old ++ [0, 0] ++ args.addresses)
    (by rw [Nat.zero_add]; apply wordSum_lt; simp [header4, addresses, ends])
  rw [Nat.zero_add] at sum
  refine ⟨wordSum_lt ?_, ?_⟩
  · simp [header, ends, header4, addresses]
  · rw [header, ends]
    dsimp only
    rw [sum]
    exact checksummed (by simp [header4]) (.inl rfl)

theorem segment_allOnes (fits : args.totalLen ≤ 65535) :
    AllOnes (args.pseudo ++ args.segment old) := by
  have ⟨even, few⟩ := args.pseudo_even
  have total : args.segmentLen ≤ args.totalLen := Nat.le_add_left ..
  refine ⟨wordSum_lt ?_, ?_⟩
  · rw [length_append, segment_length]
    omega
  · rw [segment, ← append_assoc, ← append_assoc]
    apply checksummed
    · have := args.front_even
      rw [length_append]
      omega
    · rw [← args.segmentSum_eq old fits, checksum]
      split
      · rename_i zero
        exact .inr ⟨rfl, zero.2⟩
      · exact .inl rfl

/-- A UDP checksum of zero is sent as all ones. -/
theorem udp_checksum (kind : args.tcp = none) :
    ((args.segment old).drop 6).take 2 ≠ [0, 0] := by
  have fits : args.checksum old < 65536 := by
    unfold checksum
    dsimp only
    split <;> omega
  have nonzero : args.checksum old ≠ 0 := by
    rw [checksum, kind]
    split
    · decide
    · rename_i nonzero
      exact fun zero => nonzero ⟨rfl, zero⟩
  have field : ((args.segment old).drop 6).take 2 = beBytes 2 (args.checksum old) := by
    unfold segment front
    rw [kind]
    rfl
  intro zero
  have same := ofBe_beBytes_of_lt (show args.checksum old < 256 ^ 2 from fits)
  rw [← field, zero] at same
  exact nonzero same.symm

/-- What the checksum of a segment covers, read off a packet without options or extensions: a pseudo
header of addresses, protocol and length, and the segment. -/
def covered (packet : List UInt8) : Ends → List UInt8
  | .v4 .. => (packet.drop 12).take 8 ++ [0, packet.getD 9 0] ++ beBytes 2 (packet.length - 20) ++
      packet.drop 20
  | .v6 .. => (packet.drop 8).take 32 ++ beBytes 4 (packet.length - 40) ++
      [0, 0, 0, packet.getD 6 0] ++ packet.drop 40

/-- The sums over the pseudo header with the segment and over an IPv4 header are all ones without a
wrap-around of the accumulator, a UDP checksum is not zero, and addresses, ports and payload are
read back. -/
theorem packet_well_formed (args : Fitting) (old : List UInt8) (config : TUNConfig) :
    AllOnes (covered (args.packet old) args.ends) ∧
      (args.tcp.isSome ∨ ((args.packet old).drop (args.ipLen + 6)).take 2 ≠ [0, 0]) ∧
      match args.ends with
      | .v4 src dst =>
        AllOnes ((args.packet old).take 20) ∧
          (handleIPv4 config (args.packet old)).read =
            if config.isMeshDestination.any fun isMesh => isMesh (beBytes 4 dst.toNat) then none
            else some (⟨.v4 src, .v4 dst, args.srcPort, args.dstPort⟩, args.payload)
      | .v6 src dst =>
        (handleIPv6 (args.packet old)).read =
          some (⟨.v6 src [], .v6 dst [], args.srcPort, args.dstPort⟩, args.payload) := by
  have fits := args.fits
  have split : (args.packet old).take args.ipLen = args.header old ∧
      (args.packet old).drop args.ipLen = args.segment old := by
    rw [← args.header_length old]
    exact ⟨take_left, drop_left⟩
  have same : covered (args.packet old) args.ends = args.pseudo ++ args.segment old := by
    have long : (args.packet old).length - args.ipLen = args.segmentLen := by
      rw [packet_length, totalLen, Nat.add_sub_cancel_left]
    unfold pseudo
    rw [← long]
    obtain ⟨⟨_ | _, _, _, _, _, _⟩, _⟩ := args
    · rfl
    · rfl
  refine ⟨same ▸ args.segment_allOnes old fits, ?_, ?_⟩
  · cases kind : args.tcp with
    | some => exact .inl rfl
    | none =>
      rw [← drop_drop, split.2]
      exact .inr (args.udp_checksum old kind)
  · cases ends : args.ends with
    | v4 src dst =>
      have front : (args.packet old).take 20 = args.header old := by
        rw [← split.1, ipLen, ends]
      exact ⟨front ▸ args.header_allOnes old ends, args.read_v4 old ends fits config⟩
    | v6 src dst => exact args.read_v6 old ends fits

/-! ## Buffers of the pool -/

/-- The positions of a packet that are not written. -/
def unwritten : List Nat :=
  (match args.ends with
    | .v4 .. => [4, 5, 6, 7]
    | .v6 .. => []) ++
  if args.tcp.isSome then [args.ipLen + 18, args.ipLen + 19] else []

/-- A buffer of the pool, by its position, or a new one. -/
def getTUNPacket (pool : List (List UInt8)) (pooled : Option Nat) : List UInt8 :=
  let held := (pooled.bind (pool[·]?)).getD (replicate 1600 0)
  if held.length < args.totalLen then replicate args.totalLen 0 else held

/-- The pool once the packet was built and its buffer put back. -/
def putTUNPacket (pool : List (List UInt8)) (pooled : Option Nat) : List (List UInt8) :=
  let held := args.getTUNPacket pool pooled
  (args.packet held ++ held.drop args.totalLen) :: (pooled.map pool.eraseIdx).getD pool

/-- Build packets, each in a buffer of the pool or a new one. -/
def buildAll : List (List UInt8) → List (Option Nat × PacketArgs) → List (List UInt8)
  | _, [] => []
  | pool, (pooled, args) :: later =>
    args.packet (args.getTUNPacket pool pooled) :: buildAll (args.putTUNPacket pool pooled) later

/-- Every build finds zeros where it does not write. -/
def FindsZeros : List (List UInt8) → List (Option Nat × PacketArgs) → Prop
  | _, [] => True
  | pool, (pooled, args) :: later =>
    (∀ position ∈ args.unwritten, (args.getTUNPacket pool pooled).getD position 0 = 0) ∧
      FindsZeros (args.putTUNPacket pool pooled) later

theorem packet_unwritten :
    ∀ position ∈ args.unwritten, (args.packet old).getD position 0 = old.getD position 0 := by
  obtain ⟨_ | _, _, _, _ | _, _, _⟩ := args <;> simp [unwritten]
  all_goals repeat' constructor

theorem packet_eq_iff : args.packet old = args.packet [] ↔
    ∀ position ∈ args.unwritten, old.getD position 0 = 0 := by
  constructor
  · intro same position listed
    rw [← args.packet_unwritten old position listed, same,
      args.packet_unwritten [] position listed, getD_nil]
  · intro zeros
    obtain ⟨_ | _, _, _, _ | _, _, _⟩ := args <;>
      simp_all [unwritten, packet, header, header4, segment, behind, checksum, segmentSum]

/-- The packets are those of cleared buffers exactly when every build finds zeros where it does not
write. -/
theorem history_independent_iff (pool : List (List UInt8))
    (builds : List (Option Nat × PacketArgs)) :
    buildAll pool builds = builds.map (fun build => build.2.packet []) ↔
      FindsZeros pool builds := by
  induction builds generalizing pool with
  | nil => simp [buildAll, FindsZeros]
  | cons build later ih => simp [buildAll, FindsZeros, packet_eq_iff, ih]

/-- A datagram over IPv6 and then a segment over IPv4 in the same buffer. -/
def leakingBuilds : List (Option Nat × PacketArgs) :=
  [(none, ⟨.v6 1 2, 53, 1000, none, [], 0⟩),
    (some 0, ⟨.v4 1 2, 80, 1000, some (0, 1, 0x12), [], 0⟩)]

theorem fragment_fields_leak :
    buildAll [] leakingBuilds ≠ leakingBuilds.map fun build => build.2.packet [] := by
  intro same
  have leaked : ((buildAll [] leakingBuilds).getD 1 []).getD 6 0 = protoUDP := by decide +kernel
  rw [same] at leaked
  exact absurd leaked (by decide +kernel)

end PacketArgs

end Shuttle.Proxy
