import Shuttle.Go.IPv6Text
import Shuttle.Lib.Reader
import Shuttle.Proxy.SOCKS5

/-!
# Datagrams in frames on a stream

A frame is a two-byte length, the address a datagram is for, and its payload. `proxy/udp_frame.go`
writes and reads the frames; the address has the form that it has in a SOCKS5 request and in the
header of a SOCKS5 datagram. The length is converted to sixteen bits without a check, and a reader
refuses bodies shorter than those of an IPv4 address.
-/

namespace Shuttle.Proxy

open Shuttle.Go Shuttle.Lib List Frames

/-! ## Addresses -/

inductive AddressPart where
  | ipv4
  | domainLength
  | domain
  | ipv6
  | port
deriving DecidableEq

inductive AddressError where
  | tooShort (part : AddressPart)
  | unsupportedType (atyp : UInt8)
deriving DecidableEq

def parsePort (block : List UInt8) (host : GoString) (addrEnd : Nat) :
    Except AddressError (GoString × Nat) :=
  if block.length < addrEnd + 2 then .error (.tooShort .port)
  else .ok (joinHostPort host (formatDecimal (ofBe ((block.drop addrEnd).take 2))), addrEnd + 2)

/-- Parse an address that starts with its type, and where it ends. -/
def parseAddress (block : List UInt8) : Except AddressError (GoString × Nat) :=
  let atyp := block.getD 0 0
  if atyp = atypIPv4 then
    if block.length < 1 + 4 + 2 then .error (.tooShort .ipv4)
    else parsePort block (ipString ((block.drop 1).take 4)) 5
  else if atyp = atypDomain then
    if block.length < 2 then .error (.tooShort .domainLength)
    else
      let dLen := (block.getD 1 0).toNat
      if block.length < 2 + dLen + 2 then .error (.tooShort .domain)
      else parsePort block ((block.drop 2).take dLen) (2 + dLen)
  else if atyp = atypIPv6 then
    if block.length < 1 + 16 + 2 then .error (.tooShort .ipv6)
    else parsePort block (ipString ((block.drop 1).take 16)) 17
  else .error (.unsupportedType atyp)

variable (address : Address) (bytes : List UInt8)

variable (port : UInt16)

variable (rest : List UInt8)

/-- The address with its type and a port, in front of more bytes. -/
def Address.block : List UInt8 :=
  address.atyp :: (address.encode ++ (beBytes 2 port.toNat ++ rest))

theorem Address.block_length :
    (address.block port rest).length = 1 + address.encode.length + 2 + rest.length := by
  rw [block, length_cons, length_append, length_append, beBytes_length]
  omega

theorem Address.block_drop :
    (address.block port rest).drop (1 + address.encode.length + 2) = rest := by
  have split : address.block port rest =
      address.atyp :: (address.encode ++ beBytes 2 port.toNat) ++ rest := by
    rw [block, cons_append, append_assoc]
  have length : (address.atyp :: (address.encode ++ beBytes 2 port.toNat)).length =
      1 + address.encode.length + 2 := by
    rw [length_cons, length_append, beBytes_length]
    omega
  rw [split]
  exact drop_left' length

theorem parsePort_block (host : GoString) :
    parsePort (address.block port rest) host (1 + address.encode.length) =
      .ok (joinHostPort host (formatDecimal port.toNat), 1 + address.encode.length + 2) := by
  have length := address.block_length port rest
  have enough : ¬(address.block port rest).length < 1 + address.encode.length + 2 := by omega
  have behind : (address.block port rest).drop (1 + address.encode.length) =
      beBytes 2 port.toNat ++ rest := by
    rw [Address.block, Nat.add_comm, drop_succ_cons, drop_left]
  have digits : (beBytes 2 port.toNat ++ rest).take 2 = beBytes 2 port.toNat :=
    take_left' (beBytes_length 2 _)
  have fits : port.toNat < 256 ^ 2 := port.toNat_lt
  rw [parsePort, if_neg enough, behind, digits, ofBe_beBytes_of_lt fits]

theorem parseAddress_block :
    parseAddress (address.block port rest) =
      .ok (joinHostPort address.host (formatDecimal port.toNat),
        1 + address.encode.length + 2) := by
  have length := address.block_length port rest
  have parsed := parsePort_block address port rest address.host
  cases address with
  | ipv4 bytes =>
    have four : (Address.ipv4 bytes).encode.length = 4 := bytes.property
    have first : ((Address.ipv4 bytes).block port rest).getD 0 0 = atypIPv4 := rfl
    have long : ¬((Address.ipv4 bytes).block port rest).length < 1 + 4 + 2 := by omega
    have inside : (((Address.ipv4 bytes).block port rest).drop 1).take 4 = bytes.val :=
      take_left' bytes.property
    rw [four] at parsed ⊢
    rw [parseAddress, first]
    rw [if_neg long, inside]
    exact parsed
  | domain name =>
    have count : (UInt8.ofNat name.val.length).toNat = name.val.length :=
      UInt8.toNat_ofNat_of_lt name.property
    have named : (Address.domain name).encode.length = name.val.length + 1 := rfl
    have first : ((Address.domain name).block port rest).getD 0 0 = atypDomain := rfl
    have second : ((Address.domain name).block port rest).getD 1 0 =
        UInt8.ofNat name.val.length := rfl
    have long : ¬((Address.domain name).block port rest).length < 2 + name.val.length + 2 := by
      omega
    have inside : (((Address.domain name).block port rest).drop 2).take name.val.length =
        name.val := take_left
    have stop : 1 + (name.val.length + 1) = 2 + name.val.length := by omega
    rw [named, stop] at parsed ⊢
    rw [parseAddress, first, second]
    rw [count, if_neg long, inside]
    exact parsed
  | ipv6 bytes =>
    have sixteen : (Address.ipv6 bytes).encode.length = 16 := bytes.property
    have first : ((Address.ipv6 bytes).block port rest).getD 0 0 = atypIPv6 := rfl
    have long : ¬((Address.ipv6 bytes).block port rest).length < 1 + 16 + 2 := by omega
    have inside : (((Address.ipv6 bytes).block port rest).drop 1).take 16 = bytes.val :=
      take_left' bytes.property
    rw [sixteen] at parsed ⊢
    rw [parseAddress, first]
    rw [if_neg long, inside]
    exact parsed

theorem parseAddress_ok {block : List UInt8} {addr : GoString} {stop : Nat}
    (parsed : parseAddress block = .ok (addr, stop)) : 4 ≤ stop ∧ stop ≤ block.length := by
  have port {host : GoString} {addrEnd : Nat} (behind : 2 ≤ addrEnd)
      (parsed : parsePort block host addrEnd = .ok (addr, stop)) :
      4 ≤ stop ∧ stop ≤ block.length := by
    rw [parsePort] at parsed
    split at parsed <;> cases parsed
    omega
  rw [parseAddress] at parsed
  dsimp only at parsed
  split at parsed
  · split at parsed
    · cases parsed
    · exact port (by decide) parsed
  · split at parsed
    · split at parsed
      · cases parsed
      · split at parsed
        · cases parsed
        · exact port (Nat.le_add_right 2 _) parsed
    · split at parsed
      · split at parsed
        · cases parsed
        · exact port (by decide) parsed
      · cases parsed

/-! ## Frames -/

def maxUDPPayload : Nat := 65507

inductive UDPFrameError where
  /-- "payload too large (%d > %d)". -/
  | payloadTooLarge (length : Nat)
  /-- "invalid addr %q". -/
  | invalidAddr (addr : GoString)
  /-- "invalid port %q". -/
  | invalidPort (port : GoString)
  /-- "domain too long (%d)". -/
  | domainTooLong (length : Nat)
  /-- "read length". -/
  | readLength (cause : Frames.FrameError)
  /-- "body too short (%d)". -/
  | bodyTooShort (length : Nat)
  /-- "body too large (%d)". -/
  | bodyTooLarge (length : Nat)
  /-- "read body". -/
  | readBody (cause : Frames.FrameError)
  /-- "body too short for" a part, or "unsupported address type: %d". -/
  | badAddress (cause : AddressError)
deriving DecidableEq

theorem parseIP_length {text : GoString} {ip : IP} (parsed : parseIP text = some ip) :
    ip.length = 16 := by
  rw [parseIP] at parsed
  split at parsed
  · cases parsed
  rename_i address found
  split at parsed <;> cases parsed
  cases address with
  | zero => exact absurd rfl (parseAddr_ne_zero found)
  | v4 value =>
    rfl
  | v6 value zone => exact beBytes_length 16 _

def frameAddress (host : GoString) : Except UDPFrameError Address :=
  match parsed : parseIP host with
  | some ip =>
    match short : to4 ip with
    | some four => .ok (.ipv4 ⟨four, to4_length short⟩)
    | none => .ok (.ipv6 ⟨ip, parseIP_length parsed⟩)
  | none =>
    if long : 255 < host.length then .error (.domainTooLong host.length)
    else .ok (.domain ⟨host, by omega⟩)

theorem frameAddress_spec {host : GoString} (short : parseIP host = none → host.length < 256) :
    ∃ framed, frameAddress host = .ok framed ∧
      (parseIP host = none → framed.encode.length = host.length + 1) ∧
      (parseIP host ≠ none → framed.encode.length = 4 ∨ framed.encode.length = 16) := by
  unfold frameAddress
  split
  · rename_i ip parsed
    have literal : parseIP host ≠ none := by
      rw [parsed]
      exact Option.some_ne_none ip
    split
    · rename_i four found
      exact ⟨_, rfl, fun none => absurd none literal, fun _ => .inl (to4_length found)⟩
    · exact ⟨_, rfl, fun none => absurd none literal, fun _ => .inr (parseIP_length parsed)⟩
  · rename_i name
    have fits : ¬255 < host.length := by
      have bound := short name
      omega
    rw [dif_neg fits]
    exact ⟨_, rfl, fun _ => rfl, fun literal => absurd name literal⟩

theorem Address.host_name {address : Address} (name : parseIP address.host = none) :
    address.host.length < 256 ∧ address.encode.length = address.host.length + 1 := by
  cases address with
  | ipv4 bytes =>
    have literal := parseIP_ipString (to4_four bytes.property)
    exact absurd (literal.symm.trans name) (Option.some_ne_none _)
  | domain text => exact ⟨text.property, rfl⟩
  | ipv6 bytes =>
    cases short : to4 bytes.val with
    | some four =>
      exact absurd ((parseIP_ipString short).symm.trans name) (Option.some_ne_none _)
    | none =>
      have literal := parseIP_ipString_long short bytes.property
      exact absurd (literal.symm.trans name) (Option.some_ne_none _)

/-- A body behind its length, which is taken modulo `2 ^ 16`. -/
def udpFrame (body : List UInt8) : List UInt8 := beBytes 2 (body.length % 2 ^ 16) ++ body

/-- The frame of a datagram, which is written in one call. -/
def writeUDPFrame (services : Services) (addr : GoString) (payload : List UInt8) :
    Except UDPFrameError (List UInt8) :=
  if maxUDPPayload < payload.length then .error (.payloadTooLarge payload.length)
  else
    match splitHostPort addr with
    | none => .error (.invalidAddr addr)
    | some (host, portStr) =>
      match services.lookupPort portStr with
      | none => .error (.invalidPort portStr)
      | some port =>
        match frameAddress host with
        | .error error => .error error
        | .ok address => .ok (udpFrame (address.block port payload))

/-- Read a frame from any stream that hands out an exact number of bytes. -/
def readUDPFrameVia {σ : Type} (readFull : Nat → σ → Except Frames.FrameError (List UInt8 × σ))
    (stream : σ) : Except UDPFrameError ((GoString × List UInt8) × σ) :=
  match readFull 2 stream with
  | .error cause => .error (.readLength cause)
  | .ok (lenBuf, rest) =>
    let bodyLen := ofBe lenBuf
    if bodyLen < 1 + 4 + 2 then .error (.bodyTooShort bodyLen)
    else if maxUDPPayload + 1 + 256 + 2 < bodyLen then .error (.bodyTooLarge bodyLen)
    else
      match readFull bodyLen rest with
      | .error cause => .error (.readBody cause)
      | .ok (body, rest) =>
        match parseAddress body with
        | .error cause => .error (.badAddress cause)
        | .ok (addr, stop) => .ok ((addr, body.drop stop), rest)

/-- Read a frame from the front of a stream: its address and payload, and what follows it. -/
def readUDPFrame : Except UDPFrameError ((GoString × List UInt8) × List UInt8) :=
  readUDPFrameVia readFull bytes

theorem readUDPFrame_via {σ : Type}
    {readFull : Nat → σ → Except Frames.FrameError (List UInt8 × σ)} {input : σ → List UInt8}
    (same : ∀ count stream, Frames.readFull count (input stream) =
      (readFull count stream).map fun pair => (pair.1, input pair.2)) (stream : σ) :
    readUDPFrame (input stream) =
      (readUDPFrameVia readFull stream).map fun pair => (pair.1, input pair.2) := by
  rw [readUDPFrame, readUDPFrameVia, readUDPFrameVia, same]
  cases readFull 2 stream with
  | error cause => rfl
  | ok header =>
    dsimp only [Except.map]
    by_cases short : ofBe header.1 < 1 + 4 + 2
    · rw [if_pos short, if_pos short]
    rw [if_neg short, if_neg short]
    by_cases large : maxUDPPayload + 1 + 256 + 2 < ofBe header.1
    · rw [if_pos large, if_pos large]
    rw [if_neg large, if_neg large, same]
    cases readFull (ofBe header.1) header.2 with
    | error cause => rfl
    | ok body =>
      dsimp only [Except.map]
      cases parseAddress body.1 with
      | error cause | ok found => rfl

theorem readUDPFrame_ok {bytes rest payload : List UInt8} {addr : GoString}
    (found : readUDPFrame bytes = .ok ((addr, payload), rest)) :
    payload.length + 6 + rest.length ≤ bytes.length := by
  rw [readUDPFrame, readUDPFrameVia] at found
  cases header : readFull 2 bytes with
  | error cause =>
    rw [header] at found
    cases found
  | ok first =>
    have ⟨two, split⟩ := readFull_ok header
    rw [header] at found
    dsimp only at found
    split at found
    · cases found
    split at found
    · cases found
    cases taken : readFull (ofBe first.1) first.2 with
    | error cause =>
      rw [taken] at found
      cases found
    | ok second =>
      have ⟨_, behind⟩ := readFull_ok taken
      rw [taken] at found
      dsimp only at found
      cases parsed : parseAddress second.1 with
      | error cause =>
        rw [parsed] at found
        cases found
      | ok pair =>
        have ⟨least, most⟩ := parseAddress_ok parsed
        rw [parsed] at found
        cases found
        rw [split, length_append, behind, length_append, length_drop]
        omega

def udpFrameReader : Reader UInt8 (GoString × List UInt8) UDPFrameError where
  read := readUDPFrame
  shrinks := by
    intro input rest item found
    have taken := readUDPFrame_ok found
    omega

variable {body : List UInt8}

theorem readFull_udpFrame (fits : body.length < 2 ^ 16) (rest : List UInt8) :
    readFull 2 (udpFrame body ++ rest) = .ok (beBytes 2 body.length, body ++ rest) := by
  have header := readFull_append (beBytes 2 body.length) (body ++ rest)
  rw [beBytes_length] at header
  rw [udpFrame, Nat.mod_eq_of_lt fits, append_assoc, header]

theorem readUDPFrame_udpFrame (payload : List UInt8)
    (long : 7 ≤ (address.block port payload).length)
    (fits : (address.block port payload).length < 2 ^ 16) (rest : List UInt8) :
    readUDPFrame (udpFrame (address.block port payload) ++ rest) =
      .ok ((joinHostPort address.host (formatDecimal port.toNat), payload), rest) := by
  have number : ofBe (beBytes 2 (address.block port payload).length) =
      (address.block port payload).length := ofBe_beBytes_of_lt fits
  have notShort : ¬(address.block port payload).length < 1 + 4 + 2 := by omega
  have notLarge : ¬maxUDPPayload + 1 + 256 + 2 < (address.block port payload).length := by
    rw [maxUDPPayload]
    omega
  rw [readUDPFrame, readUDPFrameVia, readFull_udpFrame fits]
  dsimp only
  rw [number, if_neg notShort, if_neg notLarge, readFull_append]
  dsimp only
  rw [parseAddress_block]
  dsimp only
  rw [address.block_drop]

theorem readUDPFrame_short (short : body.length < 7) (rest : List UInt8) :
    readUDPFrame (udpFrame body ++ rest) = .error (.bodyTooShort body.length) := by
  have fits : body.length < 2 ^ 16 := by omega
  have number : ofBe (beBytes 2 body.length) = body.length := ofBe_beBytes_of_lt fits
  rw [readUDPFrame, readUDPFrameVia, readFull_udpFrame fits]
  dsimp only
  rw [number, if_pos short]

theorem parseAddress_cut (name : { name : GoString // name.length < 256 }) (port : UInt16)
    (payload : List UInt8) {count : Nat} (short : count < name.val.length + 2)
    (enough : count + 2 ≤ ((Address.domain name).block port payload).length) :
    parseAddress (((Address.domain name).block port payload).take (count + 2)) =
      .error (.tooShort .domain) := by
  have length : (UInt8.ofNat name.val.length).toNat = name.val.length :=
    UInt8.toNat_ofNat_of_lt name.property
  have taken := length_take_of_le enough
  have first : (((Address.domain name).block port payload).take (count + 2)).getD 0 0 =
      atypDomain := rfl
  have second : (((Address.domain name).block port payload).take (count + 2)).getD 1 0 =
      UInt8.ofNat name.val.length := rfl
  have other : atypDomain ≠ atypIPv4 := by decide
  have notTwo : ¬count + 2 < 2 := by omega
  have less : count + 2 < 2 + name.val.length + 2 := by omega
  rw [parseAddress, first, second, taken]
  rw [if_neg other, if_pos rfl, if_neg notTwo, length, if_pos less]

theorem readUDPFrame_announced {announced : Nat} (fits : announced < 2 ^ 16)
    (wraps : body.length % 2 ^ 16 = announced) {cause : AddressError}
    (refused : parseAddress (body.take announced) = .error cause) (rest : List UInt8) :
    ∃ failure, readUDPFrame (udpFrame body ++ rest) = .error failure := by
  have inside : announced ≤ body.length := wraps ▸ Nat.mod_le _ _
  have enough : announced ≤ (body ++ rest).length := by
    rw [length_append]
    omega
  have header := readFull_append (beBytes 2 announced) (body ++ rest)
  rw [beBytes_length] at header
  have number : ofBe (beBytes 2 announced) = announced := ofBe_beBytes_of_lt fits
  rw [readUDPFrame, readUDPFrameVia, udpFrame, wraps, append_assoc, header]
  dsimp only
  rw [number]
  split
  · exact ⟨_, rfl⟩
  split
  · exact ⟨_, rfl⟩
  rw [readFull, if_pos enough]
  dsimp only
  rw [take_append_of_le_length inside, refused]
  exact ⟨_, rfl⟩

theorem readUDPFrame_wrapped {payload : List UInt8} (small : payload.length ≤ maxUDPPayload)
    (long : 2 ^ 16 ≤ (address.block port payload).length) (rest : List UInt8) :
    ∃ failure, readUDPFrame (udpFrame (address.block port payload) ++ rest) = .error failure := by
  have length := address.block_length port payload
  rw [maxUDPPayload] at small
  cases address with
  | ipv4 bytes =>
    have four : (Address.ipv4 bytes).encode.length = 4 := bytes.property
    omega
  | ipv6 bytes =>
    have sixteen : (Address.ipv6 bytes).encode.length = 16 := bytes.property
    omega
  | domain name =>
    have named : (Address.domain name).encode.length = name.val.length + 1 := rfl
    have ⟨announced, whole⟩ : ∃ announced,
        ((Address.domain name).block port payload).length = announced + 2 ^ 16 :=
      ⟨_, (Nat.sub_add_cancel long).symm⟩
    have fits : announced < 2 ^ 16 := by omega
    have wraps : ((Address.domain name).block port payload).length % 2 ^ 16 = announced := by
      rw [whole, Nat.add_mod_right, Nat.mod_eq_of_lt fits]
    cases announced with
    | zero =>
      have typeless : parseAddress [] = .error (.unsupportedType 0) := rfl
      exact readUDPFrame_announced fits wraps typeless rest
    | succ announced =>
      cases announced with
      | zero =>
        have nameless : parseAddress [atypDomain] = .error (.tooShort .domainLength) := rfl
        exact readUDPFrame_announced fits wraps nameless rest
      | succ count =>
        have cut := @parseAddress_cut name port payload count (by omega) (by omega)
        exact readUDPFrame_announced fits wraps cut rest

/-! ## The relay's end of a stream -/

/-- The relay sends the payload of each frame to the target of the stream, whatever address the
frame has. -/
def relayed : List (List UInt8) := (udpFrameReader.all bytes).1.map Prod.snd

theorem relayed_length :
    (relayed bytes).flatten.length + 6 * (relayed bytes).length ≤ bytes.length := by
  induction count : bytes.length using Nat.strong_induction_on generalizing bytes with
  | _ count ih =>
    cases found : udpFrameReader.read bytes with
    | error failure =>
      rw [relayed, udpFrameReader.all_error found]
      exact Nat.zero_le _
    | ok pair =>
      have taken : pair.1.2.length + 6 + pair.2.length ≤ bytes.length := readUDPFrame_ok found
      have later := ih pair.2.length (by omega) pair.2 rfl
      have first : relayed bytes = pair.1.2 :: relayed pair.2 := by
        rw [relayed, udpFrameReader.all_ok found]
        rfl
      rw [first, flatten_cons, length_append, length_cons]
      omega

theorem relayed_nil : relayed [] = [] := rfl

theorem relayed_frame (payload : List UInt8) (long : 7 ≤ (address.block port payload).length)
    (fits : (address.block port payload).length < 2 ^ 16) (tail : List UInt8) :
    relayed (udpFrame (address.block port payload) ++ tail) = payload :: relayed tail := by
  have found : udpFrameReader.read (udpFrame (address.block port payload) ++ tail) = _ :=
    readUDPFrame_udpFrame address port payload long fits tail
  rw [relayed, udpFrameReader.all_ok found]
  rfl

theorem relayed_short (short : body.length < 7) (tail : List UInt8) :
    relayed (udpFrame body ++ tail) = [] := by
  have failed : udpFrameReader.read (udpFrame body ++ tail) = _ := readUDPFrame_short short tail
  rw [relayed, udpFrameReader.all_error failed]
  rfl

end Shuttle.Proxy
