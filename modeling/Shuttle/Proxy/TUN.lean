import Shuttle.Lib.Machine
import Shuttle.Proxy.UDPWire

/-!
# The TUN inbound

`proxy/tun.go` reads IP packets of the device into one buffer and serves their TCP and UDP flows
from a table of connections. A SYN or the first datagram of a flow starts a goroutine that dials;
the one for a datagram holds a slice of the read buffer, not a copy. Handling a packet is one step,
and so is each thing the goroutines do. The segments that the inbound itself answers with are kept
as records.
-/

namespace Shuttle.Proxy

open Shuttle.Go Shuttle.Lib

/-! ## Packets -/

def protoTCP : UInt8 := 6

def protoUDP : UInt8 := 17

def ipv6HeaderLen : Nat := 40

def tcpFlagFIN : UInt8 := 0x01

def tcpFlagSYN : UInt8 := 0x02

def tcpFlagRST : UInt8 := 0x04

def tcpFlagACK : UInt8 := 0x10

def word16 (bytes : List UInt8) (position : Nat) : UInt16 :=
  UInt16.ofNat (ofBe ((bytes.drop position).take 2))

def word32 (bytes : List UInt8) (position : Nat) : UInt32 :=
  UInt32.ofNat (ofBe ((bytes.drop position).take 4))

structure TUNConfig where
  mtu : Nat
  isMeshDestination : Option (IP → Bool)

inductive Ingress where
  | dropped
  | mesh (packet : List UInt8)
  | tcp (srcIP dstIP : Addr) (tcpData : List UInt8)
  /-- A UDP datagram with its header, which starts here in the packet. -/
  | udp (srcIP dstIP : Addr) (start : Nat) (udpData : List UInt8)

def Ingress.ofProto (proto : UInt8) (srcIP dstIP : Addr) (start : Nat) (payload : List UInt8) :
    Ingress :=
  if proto = protoTCP then .tcp srcIP dstIP payload
  else if proto = protoUDP then .udp srcIP dstIP start payload
  else .dropped

variable (tcpData : List UInt8) (config : TUNConfig)

variable (pkt : List UInt8)

/-- What an IPv4 packet is for; its length field may be larger than the packet. -/
def handleIPv4 : Ingress :=
  if pkt.length < 20 then .dropped
  else
    let ihl := (pkt.getD 0 0 &&& 0x0f).toNat * 4
    if ihl < 20 ∨ pkt.length < ihl then .dropped
    else
      let totalLen := min (word16 pkt 2).toNat pkt.length
      if totalLen < ihl then .dropped
      else if config.isMeshDestination.any (fun isMesh => isMesh ((pkt.drop 16).take 4)) then
        .mesh (pkt.take totalLen)
      else .ofProto (pkt.getD 9 0) (.v4 (word32 pkt 12)) (.v4 (word32 pkt 16)) ihl
        ((pkt.take totalLen).drop ihl)

def handleIPv6 : Ingress :=
  if pkt.length < ipv6HeaderLen then .dropped
  else
    let payloadLen := min (word16 pkt 4).toNat (pkt.length - ipv6HeaderLen)
    .ofProto (pkt.getD 6 0) (.v6 (BitVec.ofNat 128 (ofBe ((pkt.drop 8).take 16))) [])
      (.v6 (BitVec.ofNat 128 (ofBe ((pkt.drop 24).take 16))) []) ipv6HeaderLen
      ((pkt.drop ipv6HeaderLen).take payloadLen)

def ingress : Ingress :=
  if pkt.length < 20 then .dropped
  else if pkt.getD 0 0 >>> 4 = 4 then handleIPv4 config pkt
  else if pkt.getD 0 0 >>> 4 = 6 ∧ ipv6HeaderLen ≤ pkt.length then handleIPv6 pkt
  else .dropped

/-- What a read of the device returns of a packet: what fits the buffer. -/
def TUNConfig.readable (packet : List UInt8) : List UInt8 :=
  packet.take (config.mtu + 4)

def tcpFlags : UInt8 := tcpData.getD 13 0

/-- The length of the header of a segment, by its own account. -/
def tcpDataOff : Nat := (tcpData.getD 12 0 >>> 4).toNat * 4

def tcpPayload : List UInt8 := tcpData.drop (tcpDataOff tcpData)

def TearsDown : Prop :=
  tcpFlags tcpData &&& tcpFlagRST ≠ 0 ∨ tcpFlags tcpData &&& tcpFlagFIN ≠ 0

instance : DecidablePred TearsDown := fun tcpData =>
  inferInstanceAs (Decidable (tcpFlags tcpData &&& tcpFlagRST ≠ 0 ∨
    tcpFlags tcpData &&& tcpFlagFIN ≠ 0))

/-! ## The server -/

structure NatKey where
  srcIP : Addr
  dstIP : Addr
  srcPort : UInt16
  dstPort : UInt16
deriving DecidableEq

/-- The flow of a segment or datagram, whose header starts with the ports. -/
def natKey (srcIP dstIP : Addr) (data : List UInt8) : NatKey :=
  ⟨srcIP, dstIP, word16 data 0, word16 data 2⟩

structure NatEntry where
  conn : Nat
  lastActive : Nat

structure TCPConn where
  key : NatKey
  written : List UInt8
  closed : Bool

structure TCPPacket where
  srcIP : Addr
  dstIP : Addr
  srcPort : UInt16
  dstPort : UInt16
  seq : UInt32
  ack : UInt32
  flags : UInt8

/-- A goroutine that serves the first datagram of a flow. -/
structure PendingUDP where
  key : NatKey
  /-- Where the payload starts in the read buffer. -/
  start : Nat
  length : Nat
  payload : List UInt8
  conn : Option Nat

structure TUNServer where
  buf : List UInt8
  tcp : GoMap NatKey NatEntry
  udp : GoMap NatKey NatEntry
  tcpConns : List TCPConn
  /-- UDP connections, and what was sent and reached its target. -/
  wire : Wire NatKey
  udpKeys : List NatKey
  /-- Goroutines that dial for a SYN, with its sequence number. -/
  dialingTCP : List (NatKey × UInt32)
  /-- Goroutines that dial for a datagram or are about to write it. -/
  pendingUDP : List PendingUDP
  tcpReaders : List (Nat × NatKey)
  udpReaders : List (Nat × NatKey)
  meshed : List (List UInt8)
  injected : List TCPPacket
  now : Nat
  closed : Bool

inductive TUNEvent where
  /-- A packet is read; a write of its segment fails after this many bytes. -/
  | packet (bytes : List UInt8) (failure : Option Nat)
  | tcpDialed (index : Nat) (succeeded : Bool)
  /-- A dial for a datagram completes, with a connection of this kind. -/
  | udpDialed (index : Nat) (link : Option Link)
  | udpWritten (index : Nat)
  | tcpEnded (index : Nat)
  | udpEnded (index : Nat)
  | cleanup
  | elapse (duration : Nat)
  | close

namespace TUNServer

variable (server : TUNServer) (config : TUNConfig)

def start : TUNServer :=
  ⟨List.replicate (config.mtu + 4) 0, GoMap.empty, GoMap.empty, [], Wire.empty, [], [], [], [], [],
    [], [], 0, false⟩

/-- Look up a table: the entry, if there is one, was used just now. -/
def touch (table : GoMap NatKey NatEntry) (key : NatKey) (now : Nat) : GoMap NatKey NatEntry :=
  match table key with
  | none => table
  | some entry => table.set key { entry with lastActive := now }

def inject (packet : TCPPacket) : TUNServer :=
  { server with injected := server.injected ++ [packet] }

variable (srcIP dstIP : Addr) (index : Nat)

def sendTCPReset (srcPort dstPort : UInt16) (ackNum : UInt32) : TUNServer :=
  server.inject ⟨srcIP, dstIP, srcPort, dstPort, 0, ackNum, tcpFlagRST ||| tcpFlagACK⟩

def sendTCPSynAck (srcPort dstPort : UInt16) (clientISN : UInt32) : TUNServer :=
  server.inject ⟨srcIP, dstIP, srcPort, dstPort, 0, clientISN + 1, tcpFlagSYN ||| tcpFlagACK⟩

def tearDownTCP (key : NatKey) (conn : Nat) : TUNServer :=
  { server with
    tcp := server.tcp.delete key
    tcpConns := server.tcpConns.modify conn fun conn => { conn with closed := true } }

def writeTCP (conn : Nat) (bytes : List UInt8) : TUNServer :=
  { server with
    tcpConns := server.tcpConns.modify conn fun conn =>
      { conn with written := conn.written ++ bytes } }

/-- Handle a TCP segment; a write fails after `failure` bytes. -/
def handleTCP (tcpData : List UInt8) (failure : Option Nat) : TUNServer :=
  if tcpData.length < 20 then server
  else
    let key := natKey srcIP dstIP tcpData
    let flags := tcpFlags tcpData
    let seq := word32 tcpData 4
    if TearsDown tcpData then
      let torn := match server.tcp key with
        | none => server
        | some entry => server.tearDownTCP key entry.conn
      if flags &&& tcpFlagFIN ≠ 0 then
        torn.sendTCPReset dstIP srcIP key.dstPort key.srcPort (seq + 1)
      else torn
    else if flags &&& tcpFlagSYN ≠ 0 ∧ flags &&& tcpFlagACK = 0 then
      match server.tcp key with
      | some _ => { server with tcp := touch server.tcp key server.now }
      | none => { server with dialingTCP := server.dialingTCP ++ [(key, seq)] }
    else
      match server.tcp key with
      | none => server
      | some entry =>
        let server := { server with tcp := touch server.tcp key server.now }
        if tcpDataOff tcpData < tcpData.length then
          let payload := tcpPayload tcpData
          if 0 < payload.length then
            match failure with
            | none => server.writeTCP entry.conn payload
            | some count =>
              ((server.writeTCP entry.conn (payload.take count)).tearDownTCP key
                entry.conn).sendTCPReset dstIP srcIP key.dstPort key.srcPort
                  (seq + UInt32.ofNat payload.length)
          else server
        else server

theorem handleTCP_eq (server : TUNServer) (srcIP dstIP : Addr) (tcpData : List UInt8)
    (failure : Option Nat) : ∃ tcp conns dialing injected,
    server.handleTCP srcIP dstIP tcpData failure = { server with
      tcp := tcp, tcpConns := conns, dialingTCP := dialing, injected := injected } := by
  unfold handleTCP
  dsimp only
  split
  · exact ⟨_, _, _, _, rfl⟩
  split
  · cases server.tcp (natKey srcIP dstIP tcpData) <;> split <;> exact ⟨_, _, _, _, rfl⟩
  split
  · split <;> exact ⟨_, _, _, _, rfl⟩
  split
  · exact ⟨_, _, _, _, rfl⟩
  split
  · split
    · split <;> exact ⟨_, _, _, _, rfl⟩
    · exact ⟨_, _, _, _, rfl⟩
  · exact ⟨_, _, _, _, rfl⟩

/-- Handle a UDP datagram whose header starts here in the read buffer. -/
def handleUDP (start : Nat) (udpData : List UInt8) : TUNServer :=
  if udpData.length < 8 then server
  else
    let payload := udpData.drop 8
    let key := natKey srcIP dstIP udpData
    let wire := server.wire.send key payload
    match server.udp key with
    | some entry =>
      { server with
        udp := touch server.udp key server.now
        wire := wire.write key entry.conn payload }
    | none =>
      { server with
        wire := wire
        pendingUDP := server.pendingUDP ++ [⟨key, start + 8, payload.length, payload, none⟩] }

def fill (pkt : List UInt8) : TUNServer :=
  { server with buf := pkt ++ server.buf.drop pkt.length }

def readPacket (server : TUNServer) (packet : List UInt8) (failure : Option Nat) : TUNServer :=
  if server.closed then server
  else
    let pkt := config.readable packet
    let server := server.fill pkt
    match ingress config pkt with
    | .dropped => server
    | .mesh packet => { server with meshed := server.meshed ++ [packet] }
    | .tcp srcIP dstIP tcpData => server.handleTCP srcIP dstIP tcpData failure
    | .udp srcIP dstIP start udpData => server.handleUDP srcIP dstIP start udpData

def tcpDialed (succeeded : Bool) : Option TUNServer :=
  match server.dialingTCP[index]? with
  | none => none
  | some (key, clientISN) =>
    let server := { server with dialingTCP := server.dialingTCP.eraseIdx index }
    let conn := server.tcpConns.length
    if succeeded then
      let entered : TUNServer := { server with
        tcpConns := server.tcpConns ++ [⟨key, [], false⟩]
        tcp := server.tcp.set key ⟨conn, server.now⟩
        tcpReaders := server.tcpReaders ++ [(conn, key)] }
      some (entered.sendTCPSynAck key.dstIP key.srcIP key.dstPort key.srcPort clientISN)
    else
      some (server.sendTCPReset key.dstIP key.srcIP key.dstPort key.srcPort (clientISN + 1))

/-- The goroutine for a datagram when its dial completes: the flow gets an entry before the datagram
is written. -/
def udpDialed (link : Option Link) : Option TUNServer :=
  match server.pendingUDP[index]? with
  | none => none
  | some pending =>
    if pending.conn.isSome then none
    else
      match link with
      | none => some { server with pendingUDP := server.pendingUDP.eraseIdx index }
      | some link =>
        let conn := server.wire.conns.length
        some { server with
          wire := server.wire.dial link
          udpKeys := server.udpKeys ++ [pending.key]
          udp := server.udp.set pending.key ⟨conn, server.now⟩
          pendingUDP := server.pendingUDP.set index { pending with conn := some conn } }

/-- What the slice of a goroutine for a datagram holds now. -/
def slice (pending : PendingUDP) : List UInt8 :=
  (server.buf.drop pending.start).take pending.length

/-- The goroutine for a datagram writes its slice of the read buffer and starts to read. -/
def udpWritten : Option TUNServer :=
  match server.pendingUDP[index]? with
  | none => none
  | some pending =>
    match pending.conn with
    | none => none
    | some conn =>
      some { server with
        wire := server.wire.write pending.key conn (server.slice pending)
        pendingUDP := server.pendingUDP.eraseIdx index
        udpReaders := server.udpReaders ++ [(conn, pending.key)] }

def tcpEnded : Option TUNServer :=
  match server.tcpReaders[index]? with
  | none => none
  | some (conn, key) =>
    some { server.tearDownTCP key conn with tcpReaders := server.tcpReaders.eraseIdx index }

def udpEnded : Option TUNServer :=
  match server.udpReaders[index]? with
  | none => none
  | some (conn, key) =>
    some { server with
      wire := server.wire.close conn
      udp := server.udp.delete key
      udpReaders := server.udpReaders.eraseIdx index }

/-- Remove entries from both tables and close their connections. -/
def remove (goes : NatEntry → Bool) : TUNServer :=
  let ends (table : GoMap NatKey NatEntry) (key : NatKey) (conn : Nat) : Bool :=
    (table key).any fun entry => entry.conn = conn && goes entry
  { server with
    tcp := fun key => (server.tcp key).filter fun entry => !goes entry
    udp := fun key => (server.udp key).filter fun entry => !goes entry
    tcpConns := server.tcpConns.mapIdx fun index conn =>
      if ends server.tcp conn.key index then { conn with closed := true } else conn
    wire := { server.wire with
      conns := server.wire.conns.mapIdx fun index conn =>
        if server.udpKeys[index]?.any fun key => ends server.udp key index then
          { conn with closed := true }
        else conn } }

/-- Longest time an entry is kept unused. -/
def maxAge : Nat := 5 * 60 * 10 ^ 9

def stale (now : Nat) (entry : NatEntry) : Bool := entry.lastActive + maxAge < now

def step (server : TUNServer) : TUNEvent → Option TUNServer
  | .packet bytes failure => some (readPacket config server bytes failure)
  | .tcpDialed index succeeded => server.tcpDialed index succeeded
  | .udpDialed index link => server.udpDialed index link
  | .udpWritten index => server.udpWritten index
  | .tcpEnded index => server.tcpEnded index
  | .udpEnded index => server.udpEnded index
  | .cleanup => some (if server.closed then server else server.remove (stale server.now))
  | .elapse duration => some { server with now := server.now + duration }
  | .close =>
    some (if server.closed then server else { server.remove (fun _ => true) with closed := true })

def machine : Machine TUNServer TUNEvent := ⟨step config⟩

end TUNServer

end Shuttle.Proxy
