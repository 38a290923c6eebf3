import Shuttle.Lib.Parser
import Shuttle.Proxy.UDPCodec

/-!
# Addresses in request headers

`transport/shared/addr.go` writes an address as a type, a host and a port, and reads it back as a
text. Reading always reports the network `tcp` and puts brackets around IPv6 addresses only, so a
host with a colon that is no literal address comes back as a text that cannot be split.
-/

namespace Shuttle.Transport

open Shuttle.Go Shuttle.Lib Shuttle.Proxy List Parser

/-! ## The codec -/

def addrTypeIPv4 : UInt8 := 0x01

def addrTypeDomain : UInt8 := 0x03

def addrTypeIPv6 : UInt8 := 0x04

inductive AddrError where
  /-- "split host:port". -/
  | splitHostPort (address : GoString)
  /-- "parse port". -/
  | parsePort (portStr : GoString)
  /-- "domain name too long (%d bytes)". -/
  | domainTooLong (length : Nat)
  /-- "read atype". -/
  | readAtype (cause : Frames.FrameError)
  /-- "read ipv4". -/
  | readIPv4 (cause : Frames.FrameError)
  /-- "read domain length". -/
  | readDomainLength (cause : Frames.FrameError)
  /-- "read domain". -/
  | readDomain (cause : Frames.FrameError)
  /-- "read ipv6". -/
  | readIPv6 (cause : Frames.FrameError)
  /-- "unknown address type 0x%02x". -/
  | unknownAddressType (atype : UInt8)
  /-- "read port". -/
  | readPort (cause : Frames.FrameError)
deriving DecidableEq

def encodeAddr (_network address : GoString) : Except AddrError (List UInt8) :=
  match splitHostPort address with
  | none => .error (.splitHostPort address)
  | some (host, portStr) =>
    match parseUint16 portStr with
    | none => .error (.parsePort portStr)
    | some port =>
      match parseIP host with
      | none =>
        if 255 < host.length then .error (.domainTooLong host.length)
        else .ok (addrTypeDomain :: UInt8.ofNat host.length :: (host ++ beBytes 2 port.toNat))
      | some ip =>
        match to4 ip with
        | some v4 => .ok (addrTypeIPv4 :: (v4 ++ beBytes 2 port.toNat))
        | none => .ok (addrTypeIPv6 :: (ip ++ beBytes 2 port.toNat))

def decodeHost (atype : UInt8) : Parser AddrError GoString :=
  if atype = addrTypeIPv4 then do
    let buf ← take 4 .readIPv4
    return ipString buf.val
  else if atype = addrTypeDomain then do
    let lenBuf ← take 1 .readDomainLength
    let domainBuf ← take (ofBe lenBuf.val) .readDomain
    return domainBuf.val
  else if atype = addrTypeIPv6 then do
    let buf ← take 16 .readIPv6
    return 0x5b :: (ipString buf.val ++ [0x5d])
  else throw (.unknownAddressType atype)

/-- Read an address: its network, which is always the same, and its text. -/
def decodeAddr : Parser AddrError (GoString × GoString) := do
  let atype ← take 1 .readAtype
  let host ← decodeHost (atype.val.getD 0 0)
  let portBuf ← take 2 .readPort
  return (lit "tcp", host ++ colon :: formatDecimal (ofBe portBuf.val))

/-! ## What comes back -/

/-- A text that splits into the same host, literal addresses up to their canonical form, and the
same port. -/
def SameAddress (address decoded : GoString) : Prop :=
  ∃ host other port, splitHostPort address = some (host, port) ∧
    splitHostPort decoded = some (other, port) ∧ canonicalHost other = canonicalHost host

/-- The addresses that come back: the port is written without leading zeros, and the host is a
literal address or has no colon. -/
def Portable (address : GoString) : Prop :=
  ∃ (host : GoString) (port : UInt16),
    splitHostPort address = some (host, formatDecimal port.toNat) ∧
      ((parseIP host).isSome ∨ colon ∉ host)

/-- The host of an address as a text, brackets around IPv6 addresses. -/
def hostText : Address → GoString
  | .ipv4 bytes => ipString bytes.val
  | .domain name => name.val
  | .ipv6 bytes => 0x5b :: (ipString bytes.val ++ [0x5d])

variable (address : Address)

variable (port : UInt16)

def addrBytes : List UInt8 :=
  address.atyp :: (address.encode ++ beBytes 2 port.toNat)

def addrText : GoString :=
  hostText address ++ colon :: formatDecimal port.toNat

theorem encodeAddr_ok {network text : GoString} {bytes : List UInt8}
    (encoded : encodeAddr network text = .ok bytes) :
    ∃ host portStr port address, splitHostPort text = some (host, portStr) ∧
      parseUint16 portStr = some port ∧ FramedAs host address ∧ bytes = addrBytes address port := by
  unfold encodeAddr at encoded
  cases split : splitHostPort text with
  | none =>
    rw [split] at encoded
    cases encoded
  | some pair =>
    have ⟨host, portStr⟩ := pair
    cases number : parseUint16 portStr with
    | none =>
      simp only [split, number] at encoded
      cases encoded
    | some port =>
      refine ⟨host, portStr, port, ?_⟩
      cases parsed : parseIP host with
      | none =>
        simp only [split, number, parsed] at encoded
        split at encoded <;> cases encoded
        exact ⟨.domain ⟨host, by omega⟩, rfl, number, .domain parsed rfl, rfl⟩
      | some ip =>
        simp only [split, number, parsed] at encoded
        cases short : to4 ip with
        | some v4 =>
          rw [short] at encoded
          cases encoded
          exact ⟨.ipv4 ⟨v4, to4_length short⟩, rfl, number, .ipv4 parsed short, rfl⟩
        | none =>
          rw [short] at encoded
          cases encoded
          exact ⟨.ipv6 ⟨ip, parseIP_length parsed⟩, rfl, number, .ipv6 parsed short, rfl⟩

theorem decodeHost_encode (rest : List UInt8) :
    decodeHost address.atyp (address.encode ++ rest) = .ok (hostText address, rest) := by
  cases address with
  | ipv4 bytes | ipv6 bytes =>
    exact bind_ok (take_append bytes.property rest)
  | domain name =>
    have type : (Address.domain name).atyp ≠ addrTypeIPv4 ∧
        (Address.domain name).atyp = addrTypeDomain :=
      ⟨(by decide : atypDomain ≠ addrTypeIPv4), rfl⟩
    have length : name.val.length = ofBe [UInt8.ofNat name.val.length] := by
      rw [ofBe, ofBe, length_nil, Nat.pow_zero, Nat.mul_one]
      exact (UInt8.toNat_ofNat_of_lt name.property).symm
    rw [decodeHost, if_neg type.1, if_pos type.2]
    have header : (take 1 AddrError.readDomainLength)
        ((Address.domain name).encode ++ rest) =
          .ok (⟨[UInt8.ofNat name.val.length], rfl⟩, name.val ++ rest) :=
      take_one _ _
    rw [bind_ok header]
    exact bind_ok (take_append length rest)

theorem decodeAddr_addrBytes (rest : List UInt8) :
    decodeAddr (addrBytes address port ++ rest) =
      .ok ((lit "tcp", addrText address port), rest) := by
  have type : (take 1 AddrError.readAtype) (addrBytes address port ++ rest) =
      .ok (⟨[address.atyp], rfl⟩, address.encode ++ (beBytes 2 port.toNat ++ rest)) := by
    rw [addrBytes, cons_append, append_assoc]
    exact take_one _ _
  have number : ofBe (beBytes 2 port.toNat) = port.toNat := ofBe_beBytes_of_lt port.toNat_lt
  have last := @Parser.bind_ok AddrError _ _ (take 2 AddrError.readPort)
    (fun portBuf => pure (lit "tcp", hostText address ++ colon :: formatDecimal (ofBe portBuf.val)))
    _ _ _ (take_append (beBytes_length 2 port.toNat) rest)
  unfold decodeAddr
  rw [bind_ok type]
  exact (bind_ok (decodeHost_encode address _)).trans (last.trans (by rw [number]; rfl))

theorem decodeAddr_network {input rest : List UInt8} {network address : GoString}
    (decoded : decodeAddr input = .ok ((network, address), rest)) : network = lit "tcp" := by
  have ⟨_, _, _, hosted⟩ := bind_inv decoded
  have ⟨_, _, _, ported⟩ := bind_inv hosted
  have ⟨_, _, _, returned⟩ := bind_inv ported
  cases returned
  rfl

theorem split_addrText {host : GoString} {address : Address} (form : FramedAs host address)
    (unbracketed : 0x5b ∉ host ∧ 0x5d ∉ host) (port : UInt16) :
    splitHostPort (addrText address port) =
      if (parseIP host).isSome ∨ colon ∉ host then
        some (canonicalHost host, formatDecimal port.toNat)
      else none := by
  have plain := formatDecimal_plain port.toNat
  have printed := form.spec.1
  cases form with
  | @ipv4 ip four parsed short =>
    have literal : (parseIP host).isSome ∨ colon ∉ host := .inl (by rw [parsed]; rfl)
    rw [if_pos literal, ← printed]
    exact splitHostPort_plain (ipString_plain (to4_four four.property)) plain
  | @ipv6 ip parsed long =>
    have literal : (parseIP host).isSome ∨ colon ∉ host := .inl (by rw [parsed]; rfl)
    have text : addrText (.ipv6 ip) port =
        0x5b :: (ipString ip.val ++ 0x5d :: colon :: formatDecimal port.toNat) := by
      rw [addrText, hostText, cons_append, append_assoc, singleton_append]
    rw [if_pos literal, ← printed, text]
    exact splitHostPort_bracketed (ipString_unbracketed ip.val) plain
  | @domain name other same =>
    have text : addrText (.domain name) port = host ++ colon :: formatDecimal port.toNat := by
      rw [addrText, hostText, same]
    have kept : canonicalHost host = host := by
      rw [canonicalHost, other]
    rw [text, kept]
    by_cases colons : colon ∈ host
    · rw [if_neg (by simp [other, colons])]
      exact splitHostPort_colons colons unbracketed.1 plain.1
    · rw [if_pos (.inr colons)]
      exact splitHostPort_plain ⟨colons, unbracketed⟩ plain

theorem sameAddress_iff {text host portStr : GoString} {port : UInt16} {address : Address}
    (split : splitHostPort text = some (host, portStr)) (number : parseUint16 portStr = some port)
    (form : FramedAs host address) : SameAddress text (addrText address port) ↔ Portable text := by
  have ⟨_, unbracketed, _⟩ := splitHostPort_some split
  have decoded := split_addrText form unbracketed port
  constructor
  · rintro ⟨_, other, samePort, textSplit, textDecoded, _⟩
    rw [split] at textSplit
    cases textSplit
    rw [decoded] at textDecoded
    split at textDecoded
    · rename_i splits
      have parts := Prod.mk.inj (Option.some.inj textDecoded)
      exact ⟨host, port, by rw [split, parts.2], splits⟩
    · cases textDecoded
  · rintro ⟨_, other, textSplit, splits⟩
    rw [split] at textSplit
    have parts := Prod.mk.inj (Option.some.inj textSplit)
    rw [← parts.1] at splits
    rw [parts.2, parseUint16_formatDecimal] at number
    have same := Option.some.inj number
    rw [if_pos splits] at decoded
    refine ⟨host, canonicalHost host, portStr, split, ?_, canonicalHost_idem host⟩
    rw [decoded, parts.2, same]

theorem addrBytes_length :
    4 ≤ (addrBytes address port).length ∧ (addrBytes address port).length ≤ 259 := by
  rw [addrBytes, length_cons, length_append, beBytes_length]
  cases address with
  | ipv4 bytes =>
    have four : (Address.ipv4 bytes).encode.length = 4 := bytes.property
    omega
  | domain name =>
    have length : (Address.domain name).encode.length = name.val.length + 1 := length_cons
    omega
  | ipv6 bytes =>
    have sixteen : (Address.ipv6 bytes).encode.length = 16 := bytes.property
    omega

end Shuttle.Transport
