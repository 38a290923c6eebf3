import Shuttle.Proxy.UDPAssociate

/-!
# Targets on the way through frames and headers

`proxy/socks5_udp.go` takes the target of a client datagram out of its header, has it written and
read as the address of a frame, and builds the header of the answer from what was read. A frame
comes back when the length of its body fits sixteen bits and the reader accepts it, a target when
its host can moreover be split from its port again.
-/

namespace Shuttle.Proxy

open Shuttle.Go Shuttle.Lib List

/-! ## Canonical addresses -/

/-- A literal address as it is printed, and any other host as it is. -/
def canonicalHost (host : GoString) : GoString :=
  match parseIP host with
  | some ip => ipString ip
  | none => host

def hostSize (host : GoString) : Nat :=
  match parseIP host with
  | some ip =>
    match to4 ip with
    | some _ => 4
    | none => 16
  | none => host.length + 1

def destination (services : Services) (addr : GoString) : Option (GoString × UInt16) :=
  match splitHostPort addr with
  | none => none
  | some (host, portStr) => (services.lookupPort portStr).map fun port => (host, port)

variable {host : GoString}

theorem destination_some {services : Services} {addr : GoString} {port : UInt16}
    (stands : destination services addr = some (host, port)) :
    ∃ portStr, splitHostPort addr = some (host, portStr) ∧
      services.lookupPort portStr = some port := by
  rw [destination] at stands
  cases parts : splitHostPort addr with
  | none =>
    rw [parts] at stands
    cases stands
  | some found =>
    rw [parts] at stands
    have ⟨_, looked, same⟩ := Option.map_eq_some_iff.mp stands
    cases same
    exact ⟨found.2, rfl, looked⟩

def canonicalAddr (host : GoString) (port : UInt16) : GoString :=
  joinHostPort (canonicalHost host) (formatDecimal port.toNat)

inductive FramedAs (host : GoString) : Address → Prop
  | ipv4 {ip : IP} {four : { bytes : IP // bytes.length = 4 }} (parsed : parseIP host = some ip)
      (short : to4 ip = some four.val) : FramedAs host (.ipv4 four)
  /-- A literal address without one. -/
  | ipv6 {ip : { bytes : IP // bytes.length = 16 }} (parsed : parseIP host = some ip.val)
      (long : to4 ip.val = none) : FramedAs host (.ipv6 ip)
  | domain {name : { name : GoString // name.length < 256 }} (other : parseIP host = none)
      (same : name.val = host) : FramedAs host (.domain name)

theorem frameAddress_framedAs {address : Address}
    (framed : frameAddress host = .ok address) : FramedAs host address := by
  unfold frameAddress at framed
  split at framed
  · rename_i ip parsed
    split at framed
    · rename_i four short
      cases framed
      exact .ipv4 parsed short
    · rename_i long
      cases framed
      exact .ipv6 parsed long
  · rename_i name
    split at framed <;> cases framed
    exact .domain name rfl

theorem FramedAs.spec {address : Address} (form : FramedAs host address) :
    address.host = canonicalHost host ∧ address.encode.length = hostSize host := by
  cases form with
  | @ipv4 ip four parsed short =>
    have printed : ipString four.val = ipString ip := by
      rw [ipString, ipString, short, to4_four four.property]
    rw [canonicalHost, hostSize, parsed]
    dsimp only
    rw [short]
    exact ⟨printed, four.property⟩
  | @ipv6 ip parsed long =>
    rw [canonicalHost, hostSize, parsed]
    dsimp only
    rw [long]
    exact ⟨rfl, ip.property⟩
  | @domain name other same =>
    rw [canonicalHost, hostSize, other, ← same]
    exact ⟨rfl, rfl⟩

theorem canonicalHost_cases (host : GoString) : canonicalHost host = host ∨
    ∃ ip, parseIP (canonicalHost host) = some ip ∧ ipString ip = canonicalHost host := by
  cases parsed : parseIP host with
  | none => exact .inl (by rw [canonicalHost, parsed])
  | some ip =>
    have printed : canonicalHost host = ipString ip := by rw [canonicalHost, parsed]
    rw [printed]
    cases short : to4 ip with
    | some four =>
      refine .inr ⟨_, parseIP_ipString short, ?_⟩
      rw [ipString, ipString, short, to4_mapped (to4_length short)]
    | none => exact .inr ⟨ip, parseIP_ipString_long short (parseIP_length parsed), rfl⟩

theorem canonicalHost_idem (host : GoString) :
    canonicalHost (canonicalHost host) = canonicalHost host := by
  rcases canonicalHost_cases host with same | ⟨ip, parsed, printed⟩
  · rw [same, same]
  · rw [canonicalHost, parsed]
    exact printed

theorem canonicalHost_unbracketed (unbracketed : 0x5b ∉ host ∧ 0x5d ∉ host) :
    0x5b ∉ canonicalHost host ∧ 0x5d ∉ canonicalHost host := by
  rw [canonicalHost]
  split
  · exact ipString_unbracketed _
  · exact unbracketed

theorem canonicalHost_name (name : parseIP (canonicalHost host) = none) :
    canonicalHost host = host := by
  rcases canonicalHost_cases host with same | ⟨ip, parsed, _⟩
  · exact same
  · cases name.symm.trans parsed

theorem destination_joinHostPort (services : Services) (port : UInt16)
    (unbracketed : 0x5b ∉ host ∧ 0x5d ∉ host) :
    destination services (joinHostPort host (formatDecimal port.toNat)) = some (host, port) := by
  rw [destination, splitHostPort_joinHostPort unbracketed]
  dsimp only
  rw [services.numeric]
  rfl

/-! ## Calls -/

structure UDPCall where
  addr : GoString
  payload : List UInt8

namespace UDPCall

variable (services : Services) (call : UDPCall)

def Accepted : Prop :=
  ∃ frame, writeUDPFrame services call.addr call.payload = .ok frame

def written : List UInt8 :=
  match writeUDPFrame services call.addr call.payload with
  | .ok frame => frame
  | .error _ => []

/-- What is to be read for the call: its address in canonical form, and its payload. -/
def received : GoString × List UInt8 :=
  match destination services call.addr with
  | some (host, port) => (canonicalAddr host port, call.payload)
  | none => (call.addr, call.payload)

def bodyLength : Nat :=
  match splitHostPort call.addr with
  | some (host, _) => 1 + hostSize host + 2 + call.payload.length
  | none => 0

/-- The body has a length that the reader accepts and two bytes hold. -/
def Framed : Prop := 7 ≤ call.bodyLength ∧ call.bodyLength < 2 ^ 16

instance : Decidable call.Framed := inferInstanceAs (Decidable (_ ∧ _))

theorem writeUDPFrame_iff {frame : List UInt8} :
    writeUDPFrame services call.addr call.payload = .ok frame ↔
      call.payload.length ≤ maxUDPPayload ∧ ∃ host port address,
        destination services call.addr = some (host, port) ∧ frameAddress host = .ok address ∧
          frame = udpFrame (address.block port call.payload) := by
  unfold writeUDPFrame destination
  by_cases large : maxUDPPayload < call.payload.length
  · rw [if_pos large]
    exact iff_of_false nofun fun fine => absurd fine.1 (by omega)
  · rw [if_neg large]
    have small : call.payload.length ≤ maxUDPPayload := by omega
    cases splitHostPort call.addr with
    | none => exact iff_of_false nofun fun ⟨_, _, _, _, stands, _⟩ => nomatch stands
    | some parts =>
      dsimp only
      cases services.lookupPort parts.2 with
      | none => exact iff_of_false nofun fun ⟨_, _, _, _, stands, _⟩ => nomatch stands
      | some port =>
        cases framed : frameAddress parts.1 with
        | error failure =>
          refine iff_of_false nofun ?_
          rintro ⟨_, host, _, address, stands, found, _⟩
          cases stands
          rw [framed] at found
          cases found
        | ok address =>
          constructor
          · intro wrote
            exact ⟨small, parts.1, port, address, rfl, framed, (Except.ok.inj wrote).symm⟩
          · rintro ⟨_, host, _, other, stands, found, same⟩
            cases stands
            rw [framed] at found
            cases found
            exact congrArg Except.ok same.symm

theorem accepted_written {services : Services} {call : UDPCall}
    (accepted : call.Accepted services) :
    call.payload.length ≤ maxUDPPayload ∧ ∃ (address : Address) (port : UInt16),
      call.written services = udpFrame (address.block port call.payload) ∧
      call.received services =
        (joinHostPort address.host (formatDecimal port.toNat), call.payload) ∧
      (address.block port call.payload).length = call.bodyLength := by
  have ⟨frame, wrote⟩ := accepted
  have ⟨small, host, port, address, stands, framed, same⟩ := (writeUDPFrame_iff _ _).mp wrote
  have ⟨printed, size⟩ := (frameAddress_framedAs framed).spec
  refine ⟨small, address, port, ?_, ?_, ?_⟩
  · rw [written, wrote, same]
  · rw [received, stands, printed]
    rfl
  · have ⟨_, split, _⟩ := destination_some stands
    rw [bodyLength, split, address.block_length, size]

theorem readUDPFrame_written {services : Services} {call : UDPCall}
    (accepted : call.Accepted services) (rest : List UInt8) :
    (call.Framed → udpFrameReader.read (call.written services ++ rest) =
      .ok (call.received services, rest)) ∧
    (¬call.Framed → ∃ failure,
      udpFrameReader.read (call.written services ++ rest) = .error failure) := by
  have ⟨small, address, port, written, received, length⟩ := accepted_written accepted
  rw [written, received, Framed, ← length]
  constructor
  · intro framed
    exact readUDPFrame_udpFrame address port call.payload framed.1 framed.2 rest
  · intro unframed
    by_cases short : (address.block port call.payload).length < 7
    · exact ⟨_, readUDPFrame_short short rest⟩
    · exact readUDPFrame_wrapped address port small (by omega) rest

end UDPCall

def readUDPFramePieces (pieces : List (List UInt8)) :
    Except UDPFrameError ((GoString × List UInt8) × List (List UInt8)) :=
  readUDPFrameVia (fun count => Frames.readPieces count []) pieces

theorem frames_read_back_iff (services : Services) {calls : List UDPCall}
    (accepted : ∀ call ∈ calls, call.Accepted services) {pieces : List (List UInt8)}
    (stream : pieces.flatten = calls.flatMap (UDPCall.written services)) :
    Yields readUDPFramePieces pieces (calls.map (UDPCall.received services))
        (.readLength .eof) ↔ ∀ call ∈ calls, call.Framed := by
  have same (pieces : List (List UInt8)) : udpFrameReader.read pieces.flatten =
      (readUDPFramePieces pieces).map fun pair => (pair.1, pair.2.flatten) := by
    refine readUDPFrame_via (fun count pieces => ?_) pieces
    have flat := Frames.readPieces_flatten pieces count []
    rw [length_nil, Nat.zero_add] at flat
    exact flat
  rw [yields_iff_all udpFrameReader same, stream]
  exact udpFrameReader.all_flatMap_iff _ _ rfl UDPCall.Framed calls
    (fun call member => fun framed rest =>
      (UDPCall.readUDPFrame_written (accepted call member) rest).1 framed)
    (fun call member => fun unframed rest =>
      (UDPCall.readUDPFrame_written (accepted call member) rest).2 unframed)

/-! ## Headers of answers -/

inductive ResponseError where
  /-- "invalid addr %q". -/
  | invalidAddr (addr : GoString)
  /-- "invalid port %q". -/
  | invalidPort (port : GoString)

/-- The type and the bytes of a host in the header of an answer; a name is not checked, its length
is taken modulo 256. -/
def responseHost (host : GoString) : List UInt8 :=
  match parseIP host with
  | some ip =>
    match to4 ip with
    | some ip4 => atypIPv4 :: ip4
    | none => atypIPv6 :: ip
  | none => atypDomain :: UInt8.ofNat host.length :: host

/-- The answer to a client: RSV and FRAG, the address it comes from, and its payload. -/
def buildSOCKS5UDPResponse (services : Services) (addr : GoString) (payload : List UInt8) :
    Except ResponseError (List UInt8) :=
  match splitHostPort addr with
  | none => .error (.invalidAddr addr)
  | some (host, portStr) =>
    match services.lookupPort portStr with
    | none => .error (.invalidPort portStr)
    | some port => .ok ([0, 0, 0] ++ (responseHost host ++ (beBytes 2 port.toNat ++ payload)))

variable {host addr target : GoString} {address : Address} {port : UInt16}
  {block payload : List UInt8} {size stop : Nat}

theorem FramedAs.responseHost
    (form : FramedAs host address) : responseHost host = address.atyp :: address.encode := by
  cases form with
  | ipv4 parsed short =>
    rw [Proxy.responseHost, parsed]
    dsimp only
    rw [short]
    rfl
  | ipv6 parsed long =>
    rw [Proxy.responseHost, parsed]
    dsimp only
    rw [long]
    rfl
  | domain other same =>
    rw [Proxy.responseHost, other, ← same]
    rfl

variable (services : Services)

theorem buildSOCKS5UDPResponse_spec (stands : destination services addr = some (host, port))
    (framed : frameAddress host = .ok address) (payload : List UInt8) :
    buildSOCKS5UDPResponse services addr payload =
      .ok ([0, 0, 0] ++ address.block port payload) := by
  have ⟨portStr, split, looked⟩ := destination_some stands
  rw [buildSOCKS5UDPResponse, split]
  dsimp only
  rw [looked, (frameAddress_framedAs framed).responseHost]
  rfl

theorem parseSOCKS5UDPHeader_block (address : Address) (port : UInt16) (payload : List UInt8)
    {reserved : List UInt8} (three : reserved.length = 3) :
    parseSOCKS5UDPHeader (reserved ++ address.block port payload) =
        .ok (joinHostPort address.host (formatDecimal port.toNat),
          3 + (1 + address.encode.length + 2)) ∧
      (reserved ++ address.block port payload).drop (3 + (1 + address.encode.length + 2)) =
        payload := by
  have length := address.block_length port payload
  have long : ¬(reserved ++ address.block port payload).length < 4 := by
    rw [length_append]
    omega
  have behind : (reserved ++ address.block port payload).drop 3 = address.block port payload :=
    drop_left' three
  constructor
  · rw [parseSOCKS5UDPHeader, if_neg long, behind, parseAddress_block]
  · rw [← drop_drop, behind, address.block_drop]

/-! ## Parsed headers -/

theorem portNumber (enough : size + 2 ≤ block.length) :
    (UInt16.ofNat (ofBe ((block.drop size).take 2))).toNat = ofBe ((block.drop size).take 2) ∧
      ((block.drop size).take 2).length = 2 := by
  have two : ((block.drop size).take 2).length = 2 := by
    rw [length_take, length_drop]
    omega
  have small := ofBe_lt ((block.drop size).take 2)
  rw [two] at small
  exact ⟨UInt16.toNat_ofNat_of_lt small, two⟩

theorem port_split (enough : size + 2 ≤ block.length) :
    block.drop size = beBytes 2 (UInt16.ofNat (ofBe ((block.drop size).take 2))).toNat ++
      block.drop (size + 2) := by
  have ⟨number, two⟩ := portNumber enough
  have digits := beBytes_ofBe ((block.drop size).take 2)
  rw [two] at digits
  rw [number, digits, ← drop_drop, take_append_drop]

theorem block_of_parts {atyp : UInt8} {tail : List UInt8}
    (typed : atyp = address.atyp) (front : tail.take size = address.encode)
    (enough : size + 2 ≤ tail.length) :
    atyp :: tail = address.block (UInt16.ofNat (ofBe ((tail.drop size).take 2)))
      (tail.drop (size + 2)) := by
  rw [Address.block, ← front, ← port_split enough, take_append_drop, typed]

theorem parsePort_ok {addrEnd : Nat} (parsed : parsePort block host addrEnd = .ok (addr, stop)) :
    addrEnd + 2 ≤ block.length ∧ stop = addrEnd + 2 ∧
      addr = joinHostPort host
        (formatDecimal (UInt16.ofNat (ofBe ((block.drop addrEnd).take 2))).toNat) := by
  rw [parsePort] at parsed
  split at parsed
  · cases parsed
  cases parsed
  have enough : addrEnd + 2 ≤ block.length := by omega
  rw [(portNumber enough).1]
  exact ⟨enough, rfl, rfl⟩

theorem block_of_parsePort (address : Address) {atyp : UInt8} {tail : List UInt8}
    (typed : atyp = address.atyp)
    (front : tail.take size = address.encode)
    (found : parsePort (atyp :: tail) address.host (1 + size) = .ok (addr, stop)) :
    ∃ (address : Address) (port : UInt16),
      atyp :: tail = address.block port ((atyp :: tail).drop stop) ∧
        addr = joinHostPort address.host (formatDecimal port.toNat) := by
  have ⟨enough, stops, reads⟩ := parsePort_ok found
  rw [length_cons] at enough
  have whole := block_of_parts typed front (by omega)
  have behind : (atyp :: tail).drop stop = tail.drop (size + 2) := by
    rw [stops, Nat.add_comm 1, drop_succ_cons]
  have port : (atyp :: tail).drop (1 + size) = tail.drop size := by
    rw [Nat.add_comm 1, drop_succ_cons]
  rw [port] at reads
  rw [behind]
  exact ⟨address, _, whole, reads⟩

theorem parseAddress_inv (parsed : parseAddress block = .ok (addr, stop)) :
    ∃ (address : Address) (port : UInt16), block = address.block port (block.drop stop) ∧
      addr = joinHostPort address.host (formatDecimal port.toNat) := by
  cases block with
  | nil => cases parsed
  | cons atyp tail =>
    -- The type is the first byte, and the host of each type ends where its port is read.
    rw [parseAddress] at parsed
    dsimp only at parsed
    split at parsed
    · rename_i typed
      split at parsed
      · cases parsed
      · rename_i enough
        rw [length_cons] at enough
        have four : (tail.take 4).length = 4 := length_take_of_le (by omega)
        exact block_of_parsePort (.ipv4 ⟨tail.take 4, four⟩) typed rfl parsed
    · split at parsed
      · rename_i typed
        split at parsed
        · cases parsed
        · cases tail with
          | nil => exact absurd (Nat.lt_succ_self 1) ‹_›
          | cons count name =>
            split at parsed
            · cases parsed
            · rename_i enough
              have second : (atyp :: count :: name).getD 1 0 = count := rfl
              rw [second, length_cons, length_cons] at enough
              have length : (name.take count.toNat).length = count.toNat :=
                length_take_of_le (by omega)
              have bound : (name.take count.toNat).length < 256 := by
                rw [length]
                exact count.toNat_lt
              have front : (count :: name).take (count.toNat + 1) =
                  (Address.domain ⟨name.take count.toNat, bound⟩).encode := by
                rw [take_succ_cons, Address.encode, length, UInt8.ofNat_toNat]
              rw [Nat.add_comm 2] at parsed
              refine block_of_parsePort (.domain ⟨name.take count.toNat, bound⟩) typed front ?_
              rw [Nat.add_comm 1]
              exact parsed
      · split at parsed
        · rename_i typed
          split at parsed
          · cases parsed
          · rename_i enough
            rw [length_cons] at enough
            have sixteen : (tail.take 16).length = 16 := length_take_of_le (by omega)
            exact block_of_parsePort (.ipv6 ⟨tail.take 16, sixteen⟩) typed rfl parsed
        · cases parsed

theorem parseSOCKS5UDPHeader_inv {data : List UInt8} {start : Nat}
    (parsed : parseSOCKS5UDPHeader data = .ok (target, start)) :
    ∃ (address : Address) (port : UInt16),
      data = data.take 3 ++ address.block port (data.drop start) ∧
      target = joinHostPort address.host (formatDecimal port.toNat) := by
  unfold parseSOCKS5UDPHeader at parsed
  split at parsed
  · cases parsed
  split at parsed
  · cases parsed
  rename_i found
  cases parsed
  have ⟨address, port, whole, reads⟩ := parseAddress_inv found
  rw [drop_drop] at whole
  refine ⟨address, port, ?_, reads⟩
  rw [← whole, take_append_drop]

/-! ## Targets -/

/-- A target goes through a frame and the header of an answer, and is found there in a given
form. -/
def Survives (target : GoString) (payload : List UInt8) (recovered : GoString) : Prop :=
  ∃ frame addr response start,
    writeUDPFrame services target payload = .ok frame ∧
    readUDPFrame frame = .ok ((addr, payload), []) ∧
    buildSOCKS5UDPResponse services addr payload = .ok response ∧
    parseSOCKS5UDPHeader response = .ok (recovered, start) ∧ response.drop start = payload

theorem survives_of_destination {services : Services}
    (stands : destination services target = some (host, port))
    (unbracketed : 0x5b ∉ host ∧ 0x5d ∉ host)
    (framed : frameAddress host = .ok address) (small : payload.length ≤ maxUDPPayload)
    (long : 7 ≤ (address.block port payload).length)
    (fits : (address.block port payload).length < 2 ^ 16) :
    Survives services target payload (canonicalAddr host port) := by
  have ⟨printed, _⟩ := (frameAddress_framedAs framed).spec
  have wrote := (UDPCall.writeUDPFrame_iff services ⟨target, payload⟩).mpr
    ⟨small, host, port, address, stands, framed, rfl⟩
  have read := readUDPFrame_udpFrame address port payload long fits []
  rw [append_nil, printed] at read
  have again := destination_joinHostPort services port (canonicalHost_unbracketed unbracketed)
  have ⟨other, otherFramed, _⟩ := @frameAddress_spec (canonicalHost host) fun name => by
    have same := printed.trans (canonicalHost_name name)
    rw [canonicalHost_name name, ← same]
    rw [← printed] at name
    exact (Address.host_name name).1
  have ⟨otherPrinted, _⟩ := (frameAddress_framedAs otherFramed).spec
  rw [canonicalHost_idem] at otherPrinted
  have built := buildSOCKS5UDPResponse_spec services again otherFramed payload
  have ⟨found, behind⟩ := parseSOCKS5UDPHeader_block other port payload
    (rfl : [(0 : UInt8), 0, 0].length = 3)
  rw [otherPrinted] at found
  exact ⟨_, _, _, _, wrote, read, built, found, behind⟩

theorem Survives.unique {services : Services} {first second : GoString}
    (survives : Survives services target payload first)
    (again : Survives services target payload second) : first = second := by
  have ⟨_, _, _, _, wrote, read, built, found, _⟩ := survives
  have ⟨_, _, _, _, wroteAgain, readAgain, builtAgain, foundAgain, _⟩ := again
  cases wrote.symm.trans wroteAgain
  cases read.symm.trans readAgain
  cases built.symm.trans builtAgain
  exact (Prod.mk.inj (Except.ok.inj (found.symm.trans foundAgain))).1

theorem framed_of_read
    {item : GoString × List UInt8} {rest : List UInt8} (small : payload.length ≤ maxUDPPayload)
    (read : readUDPFrame (udpFrame (address.block port payload)) = .ok (item, rest)) :
    7 ≤ (address.block port payload).length ∧ (address.block port payload).length < 2 ^ 16 := by
  constructor
  · by_contra short
    have refused := readUDPFrame_short (Nat.lt_of_not_le short) []
    rw [append_nil, read] at refused
    cases refused
  · by_contra long
    have ⟨failure, refused⟩ := readUDPFrame_wrapped address port small (Nat.le_of_not_lt long) []
    rw [append_nil, read] at refused
    cases refused

theorem canonicalAddr_bracketed (colonless : colon ∉ host)
    (unbracketed : 0x5b ∉ host ∧ 0x5d ∉ host) (port : UInt16) :
    canonicalAddr (0x5b :: (host ++ [0x5d])) port ≠ canonicalAddr host port := by
  intro same
  have named : canonicalHost (0x5b :: (host ++ [0x5d])) = 0x5b :: (host ++ [0x5d]) := by
    rw [canonicalHost, parseIP_opened]
  have outside : colon ∉ 0x5b :: (host ++ [0x5d]) := by
    simp only [mem_cons, mem_append, not_mem_nil, not_or]
    exact ⟨by decide, colonless, by decide⟩
  have inner := splitHostPort_joinHostPort (canonicalHost_unbracketed unbracketed) port.toNat
  have left : canonicalAddr (0x5b :: (host ++ [0x5d])) port =
      0x5b :: (host ++ 0x5d :: colon :: formatDecimal port.toNat) := by
    rw [canonicalAddr, named, joinHostPort_colonless outside, cons_append, append_assoc,
      singleton_append]
  have outer := splitHostPort_bracketed unbracketed (formatDecimal_plain port.toNat)
  rw [← left, same, canonicalAddr, inner] at outer
  have hosts := (Prod.mk.inj (Option.some.inj outer)).1
  rw [left, canonicalAddr, hosts, joinHostPort_colonless colonless] at same
  have lengths := congrArg List.length same
  simp only [length_cons, length_append] at lengths
  omega

theorem survives_iff (address : Address) (port : UInt16) (payload : List UInt8) :
    Survives services (joinHostPort address.host (formatDecimal port.toNat)) payload
        (canonicalAddr address.host port) ↔
      (0x5b ∉ address.host ∧ 0x5d ∉ address.host) ∧ payload.length ≤ maxUDPPayload ∧
        7 ≤ 1 + hostSize address.host + 2 + payload.length ∧
        1 + hostSize address.host + 2 + payload.length < 2 ^ 16 := by
  constructor
  · intro survives
    have ⟨frame, _, _, _, wrote, read, _⟩ := survives
    have ⟨small, inner, number, form, stands, framed, same⟩ :=
      (UDPCall.writeUDPFrame_iff services
        ⟨joinHostPort address.host (formatDecimal port.toNat), payload⟩).mp wrote
    subst same
    have ⟨long, fits⟩ := framed_of_read small read
    have ⟨_, size⟩ := (frameAddress_framedAs framed).spec
    have ⟨portStr, split, looked⟩ := destination_some stands
    have ⟨_, unbracketed, _⟩ := splitHostPort_some split
    have ⟨behind, forms⟩ := splitHostPort_join_inv (formatDecimal_plain port.toNat) split
    rw [behind, services.numeric] at looked
    cases looked
    have whole : inner = address.host := by
      rcases forms with same | ⟨colonless, brackets⟩
      · exact same
      · have bare : colon ∉ inner := fun member => by
          rw [brackets] at colonless
          exact colonless (mem_cons_of_mem _ (mem_append_left _ member))
        have other := survives_of_destination stands unbracketed framed small long fits
        have clash := survives.unique other
        rw [brackets] at clash
        exact absurd clash (canonicalAddr_bracketed bare unbracketed port)
    rw [form.block_length, size, whole] at long fits
    rw [whole] at unbracketed
    exact ⟨unbracketed, small, long, fits⟩
  · rintro ⟨unbracketed, small, long, fits⟩
    have stands := destination_joinHostPort services port unbracketed
    have ⟨form, framed, _⟩ :=
      @frameAddress_spec address.host fun name => (Address.host_name name).1
    have ⟨_, size⟩ := (frameAddress_framedAs framed).spec
    rw [← size, ← form.block_length] at long fits
    exact survives_of_destination stands unbracketed framed small long fits

/-- Reads of a stream of accepted calls, cut into whatever pieces, return their payloads and
canonical addresses exactly when the body of each frame has at least seven bytes and its length fits
two. An extracted target goes through a frame and the header of an answer and is extracted again
exactly when, moreover, its host has no brackets. -/
theorem udp_frames_recovered_iff (services : Services) :
    (∀ (calls : List UDPCall) (pieces : List (List UInt8)),
      (∀ call ∈ calls, call.Accepted services) →
      pieces.flatten = calls.flatMap (UDPCall.written services) →
      (Yields readUDPFramePieces pieces (calls.map (UDPCall.received services)) (.readLength .eof) ↔
        ∀ call ∈ calls, 7 ≤ call.bodyLength ∧ call.bodyLength < 2 ^ 16)) ∧
    (∀ (data : List UInt8) (target : GoString) (start : Nat),
      parseSOCKS5UDPHeader data = .ok (target, start) →
      ∃ (address : Address) (port : UInt16),
        data = data.take 3 ++ address.block port (data.drop start) ∧
        target = joinHostPort address.host (formatDecimal port.toNat) ∧
        ∀ payload, Survives services target payload (canonicalAddr address.host port) ↔
          (0x5b ∉ address.host ∧ 0x5d ∉ address.host) ∧ payload.length ≤ maxUDPPayload ∧
            7 ≤ 1 + hostSize address.host + 2 + payload.length ∧
            1 + hostSize address.host + 2 + payload.length < 2 ^ 16) := by
  constructor
  · intro calls pieces accepted stream
    exact frames_read_back_iff services accepted stream
  · intro data target start parsed
    have ⟨address, port, whole, same⟩ := parseSOCKS5UDPHeader_inv parsed
    refine ⟨address, port, whole, same, fun payload => ?_⟩
    rw [same]
    exact survives_iff services address port payload

def sampleCalls : List UDPCall :=
  [⟨lit "[2001:DB8::1]:53", lit "query"⟩, ⟨lit "example.com:853", []⟩]

theorem sampleCalls_read_back :
    Yields readUDPFramePieces
      ((sampleCalls.flatMap (UDPCall.written Services.unnamed)).map fun byte => [byte])
      [(lit "[2001:db8::1]:53", lit "query"), (lit "example.com:853", [])]
      (.readLength .eof) := by
  have accepted : ∀ call ∈ sampleCalls, call.Accepted Services.unnamed := by
    intro call member
    refine ⟨call.written Services.unnamed, ?_⟩
    revert call
    decide +kernel
  have received : sampleCalls.map (UDPCall.received Services.unnamed) =
      [(lit "[2001:db8::1]:53", lit "query"), (lit "example.com:853", [])] := by
    decide +kernel
  have stream : ((sampleCalls.flatMap (UDPCall.written Services.unnamed)).map
      fun byte => [byte]).flatten = sampleCalls.flatMap (UDPCall.written Services.unnamed) := by
    decide +kernel
  have read := ((udp_frames_recovered_iff Services.unnamed).1 sampleCalls _ accepted stream).mpr
    (by decide +kernel)
  rw [received] at read
  exact read

/-- An empty payload to a name of one byte has a frame that is refused, and a name with a bracket
has none. -/
theorem short_frame_refused :
    (UDPCall.mk (lit "a:53") []).Accepted Services.unnamed ∧
      ¬Yields readUDPFramePieces [(UDPCall.mk (lit "a:53") []).written Services.unnamed]
        [(lit "a:53", [])] (.readLength .eof) ∧
      parseSOCKS5UDPHeader ([0, 0, 0, 3, 1] ++ lit "a" ++ [0, 53]) = .ok (lit "a:53", 8) ∧
      (∀ recovered, ¬Survives Services.unnamed (lit "a:53") [] recovered) ∧
      parseSOCKS5UDPHeader ([0, 0, 0, 3, 2] ++ lit "a]" ++ [0, 53]) = .ok (lit "a]:53", 9) ∧
      ∀ payload recovered, ¬Survives Services.unnamed (lit "a]:53") payload recovered := by
  have wrote : writeUDPFrame Services.unnamed (lit "a:53") [] =
      .ok [0, 5, 3, 1, 97, 0, 53] := by decide +kernel
  refine ⟨⟨_, wrote⟩, ?_, by decide +kernel, ?_, by decide +kernel, ?_⟩
  · intro yields
    cases yields with
    | more found _ =>
      cases found
  · rintro recovered ⟨frame, _, _, _, written, read, _⟩
    have refused : readUDPFrame [0, 5, 3, 1, 97, 0, 53] = .error (.bodyTooShort 5) := by decide
    cases wrote.symm.trans written
    rw [refused] at read
    cases read
  · rintro payload recovered ⟨frame, _, _, _, written, _⟩
    rw [writeUDPFrame] at written
    split at written <;> cases written

end Shuttle.Proxy
