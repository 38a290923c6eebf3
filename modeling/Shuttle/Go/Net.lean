import Shuttle.Go.Text
import Shuttle.Go.Words

/-!
# Addresses and networks of the Go runtime

The parts of `net` and `net/netip` that address handling rests on: textual addresses with zones,
prefixes, the two byte forms of an IPv4 address, and network membership. Parsing follows the
standard library's automaton, including its refusals. The network that a program looks names up in
is a parameter with any resolver behaviour.
-/

namespace Shuttle.Go

open List

/-- A `net.IP`: four bytes, sixteen bytes, or the empty list for nil. -/
abbrev IP := List UInt8

/-- The twelve bytes in front of an IPv4 address in its sixteen-byte form. -/
def v4InV6 : List UInt8 := [0, 0, 0, 0, 0, 0, 0, 0, 0, 0, 0xff, 0xff]

/-- The four-byte form of an address, `IP.To4`; none for an address that has no such form. -/
def to4 (ip : IP) : Option IP :=
  if ip.length = 4 then some ip
  else if ip.length = 16 ∧ ip.take 12 = v4InV6 then some (ip.drop 12)
  else none

/-- The sixteen-byte form of an address, `IP.To16`; none for any other length. -/
def to16 (ip : IP) : Option IP :=
  if ip.length = 4 then some (v4InV6 ++ ip)
  else if ip.length = 16 then some ip
  else none

theorem to4_length {ip four : IP} (found : to4 ip = some four) : four.length = 4 := by
  unfold to4 at found
  split at found
  · rename_i short
    obtain rfl := Option.some.inj found
    exact short
  · split at found
    · rename_i long
      obtain rfl := Option.some.inj found
      simp [long.1]
    · contradiction

theorem to4_mapped {four : IP} (short : four.length = 4) : to4 (v4InV6 ++ four) = some four := by
  have long : (v4InV6 ++ four).length = 16 := by
    rw [length_append, short]
    rfl
  have front : (v4InV6 ++ four).take 12 = v4InV6 := rfl
  have back : (v4InV6 ++ four).drop 12 = four := rfl
  rw [to4, if_neg (by omega), if_pos ⟨long, front⟩, back]

theorem to4_four {ip : IP} (short : ip.length = 4) : to4 ip = some ip := by
  simp [to4, short]

/-- Equality of addresses, `IP.Equal`: an IPv4 address equals its IPv6 form. -/
def ipEqual (left right : IP) : Bool :=
  if left.length = right.length then left == right
  else if left.length = 4 ∧ right.length = 16 then right == v4InV6 ++ left
  else if left.length = 16 ∧ right.length = 4 then left == v4InV6 ++ right
  else false

theorem ipEqual_four {four : IP} (short : four.length = 4) (ip : IP) :
    ipEqual four ip = true ↔ to4 ip = some four := by
  rw [ipEqual, short]
  by_cases same : ip.length = 4
  · rw [if_pos same.symm, to4_four same, beq_iff_eq, Option.some_inj, eq_comm]
  rw [if_neg (fun lengths => same lengths.symm)]
  by_cases long : ip.length = 16
  · rw [if_pos ⟨rfl, long⟩, beq_iff_eq]
    constructor
    · intro mapped
      rw [mapped, to4_mapped short]
    · intro found
      rw [to4, if_neg same] at found
      split at found
      · rename_i mapped
        rw [← Option.some.inj found, ← mapped.2, take_append_drop]
      · cases found
  · have none : to4 ip = none := by
      rw [to4, if_neg same, if_neg (fun mapped => long mapped.1)]
    rw [if_neg (fun lengths => long lengths.2), none]
    exact iff_of_false Bool.false_ne_true nofun

structure IPNet where
  ip : IP
  /-- The mask, as long as the textual address family. -/
  mask : List UInt8
deriving DecidableEq, Repr

namespace IPNet

variable (network : IPNet)

/-- The number and mask compared by `Contains`; none where the lengths do not agree. -/
def numberAndMask : Option (IP × List UInt8) :=
  let number := (to4 network.ip).getD network.ip
  if number.length = 4 ∧ network.mask.length = 4 then some (number, network.mask)
  else if number.length = 4 ∧ network.mask.length = 16 then some (number, network.mask.drop 12)
  else if number.length = 16 ∧ network.mask.length = 16 then some (number, network.mask)
  else none

/-- `IPNet.Contains`. -/
def contains (ip : IP) : Bool :=
  match network.numberAndMask with
  | none => false
  | some (number, mask) =>
    let address := (to4 ip).getD ip
    address.length == number.length && maskBytes number mask == maskBytes address mask

/-- `IPMask.Size`; both zero for a mask that is not leading ones. -/
def size : Nat × Nat :=
  match simpleMaskLength network.mask with
  | some ones => (ones, 8 * network.mask.length)
  | none => (0, 0)

end IPNet

/-- A `netip.Addr`. The zero value is no address; only IPv6 addresses have a zone. -/
inductive Addr where
  /-- The zero value, neither family. -/
  | zero
  | v4 (value : UInt32)
  /-- An IPv6 address with its zone, empty when there is none. -/
  | v6 (value : BitVec 128) (zone : GoString)
deriving DecidableEq, Repr

namespace Addr

def zone : Addr → GoString
  | v6 _ zone => zone
  | _ => []

def bitLen : Addr → Nat
  | zero => 0
  | v4 _ => 32
  | v6 _ _ => 128

/-- The sixteen-byte form without the zone, `Addr.As16`. -/
def as16 : Addr → IP
  | zero => List.replicate 16 0
  | v4 value => v4InV6 ++ beBytes 4 value.toNat
  | v6 value _ => beBytes 16 value.toNat

/-- The following address, `Addr.Next`; the zero value after the last of a family. -/
def next : Addr → Addr
  | zero => zero
  | v4 value => if value + 1 = 0 then zero else v4 (value + 1)
  | v6 value zone => if value + 1 = 0 then zero else v6 (value + 1) zone

/-- The address of four or sixteen bytes, `netip.AddrFromSlice`. -/
def ofSlice (ip : IP) : Option Addr :=
  if ip.length = 4 then some (v4 (UInt32.ofNat (ofBe ip)))
  else if ip.length = 16 then some (v6 (BitVec.ofNat 128 (ofBe ip)) [])
  else none

/-- `Addr.Unmap`: the IPv4 address that an IPv6 one embeds. -/
def unmap : Addr → Addr
  | v6 value zone =>
    match to4 (beBytes 16 value.toNat) with
    | some four => v4 (UInt32.ofNat (ofBe four))
    | none => v6 value zone
  | other => other

theorem beBytes_ofNat_ofBe {ip : IP} (sixteen : ip.length = 16) :
    beBytes 16 (BitVec.ofNat 128 (ofBe ip)).toNat = ip := by
  have bound := ofBe_lt ip
  rw [sixteen] at bound
  have small : ofBe ip % 2 ^ 128 = ofBe ip := Nat.mod_eq_of_lt bound
  rw [BitVec.toNat_ofNat, small, ← sixteen, beBytes_ofBe]

theorem unmap_unmap (addr : Addr) : addr.unmap.unmap = addr.unmap := by
  cases addr with
  | zero | v4 _ => rfl
  | v6 value zone =>
    cases short : to4 (beBytes 16 value.toNat) with
    | some four =>
      rw [unmap, short]
      rfl
    | none =>
      have kept : unmap (v6 value zone) = v6 value zone := by
        rw [unmap, short]
      rw [kept, kept]

theorem v4_injective {left right : IP} (leftShort : left.length = 4) (rightShort : right.length = 4)
    (same : v4 (UInt32.ofNat (ofBe left)) = v4 (UInt32.ofNat (ofBe right))) : left = right := by
  have leftBound := ofBe_lt left
  have rightBound := ofBe_lt right
  rw [leftShort] at leftBound
  rw [rightShort] at rightBound
  have words := Addr.v4.inj same
  have numbers := congrArg UInt32.toNat words
  rw [UInt32.toNat_ofNat_of_lt' leftBound, UInt32.toNat_ofNat_of_lt' rightBound] at numbers
  have leftBytes := beBytes_ofBe left
  have rightBytes := beBytes_ofBe right
  rw [leftShort] at leftBytes
  rw [rightShort] at rightBytes
  rw [← leftBytes, ← rightBytes, numbers]

end Addr

def decimalDigit (byte : UInt8) : Option Nat :=
  if 0x30 ≤ byte ∧ byte ≤ 0x39 then some (byte.toNat - 0x30) else none

def hexDigit (byte : UInt8) : Option Nat :=
  if 0x30 ≤ byte ∧ byte ≤ 0x39 then some (byte.toNat - 0x30)
  else if 0x61 ≤ byte ∧ byte ≤ 0x66 then some (byte.toNat - 0x61 + 10)
  else if 0x41 ≤ byte ∧ byte ≤ 0x46 then some (byte.toNat - 0x41 + 10)
  else none

/-- Dotted decimal; `digits` counts the digits of the field being read and `fields` holds the
finished ones. -/
def parseIPv4Fields : GoString → (value digits : Nat) → (fields : List UInt8) → Option (List UInt8)
  | [], value, _, fields =>
    if fields.length < 3 then none else some (fields ++ [UInt8.ofNat value])
  | byte :: rest, value, digits, fields =>
    match decimalDigit byte with
    | some digit =>
      if digits = 1 ∧ value = 0 then none
      else if 255 < value * 10 + digit then none
      else parseIPv4Fields rest (value * 10 + digit) (digits + 1) fields
    | none =>
      if byte ≠ dot then none
      else if digits = 0 ∨ rest = [] then none
      else if fields.length = 3 then none
      else parseIPv4Fields rest 0 0 (fields ++ [UInt8.ofNat value])

def parseGroup : GoString → (digits value : Nat) → Option (Nat × Nat × GoString)
  | [], digits, value => some (digits, value, [])
  | byte :: rest, digits, value =>
    match hexDigit byte with
    | some digit => if 3 < digits then none else parseGroup rest (digits + 1) (value * 16 + digit)
    | none => some (digits, value, byte :: rest)

/-- The group loop of `parseIPv6`, at most eight groups. `bytes` are the address bytes so far
and `ellipsis` the position of `::` among them. -/
def parseGroups : Nat → GoString → List UInt8 → Option Nat →
    Option (GoString × List UInt8 × Option Nat)
  | 0, text, bytes, ellipsis => some (text, bytes, ellipsis)
  | groups + 1, text, bytes, ellipsis =>
    match parseGroup text 0 0 with
    | none => none
    | some (digits, value, rest) =>
      let longer := bytes ++ [UInt8.ofNat (value / 256), UInt8.ofNat value]
      if digits = 0 then none
      else match rest with
        | [] => some ([], longer, ellipsis)
        | byte :: rest =>
          if byte = dot then
            if ellipsis = none ∧ bytes.length ≠ 12 then none
            else if 16 < bytes.length + 4 then none
            else (parseIPv4Fields text 0 0 []).map fun fields => ([], bytes ++ fields, ellipsis)
          else if byte ≠ colon then none
          else match rest with
            | [] => none
            | following :: more =>
              if following ≠ colon then parseGroups groups (following :: more) longer ellipsis
              else if ellipsis.isSome then none
              else if more = [] then some ([], longer, some longer.length)
              else parseGroups groups more longer (some longer.length)

variable (text : GoString)

def parseIPv6Bytes : Option (List UInt8) :=
  let doubled := lit "::"
  let start := if doubled.isPrefixOf text then (text.drop 2, some 0) else (text, none)
  if start.2 = some 0 ∧ start.1 = [] then some (List.replicate 16 0)
  else match parseGroups 8 start.1 [] start.2 with
    | none => none
    | some (rest, bytes, ellipsis) =>
      if rest ≠ [] then none
      else match ellipsis with
        | none => if bytes.length < 16 then none else some bytes
        | some position =>
          if bytes.length < 16 then
            some (bytes.take position ++ List.replicate (16 - bytes.length) 0 ++
              bytes.drop position)
          else none

/-- An IPv6 address with an optional non-empty zone after a percent sign. -/
def parseIPv6 : Option Addr :=
  match indexByte text 0x25 with
  | none => (parseIPv6Bytes text).map fun bytes => .v6 (BitVec.ofNat 128 (ofBe bytes)) []
  | some position =>
    let zone := text.drop (position + 1)
    if zone = [] then none
    else (parseIPv6Bytes (text.take position)).map fun bytes =>
      .v6 (BitVec.ofNat 128 (ofBe bytes)) zone

def parseIPv4 : Option Addr :=
  (parseIPv4Fields text 0 0 []).map fun fields => .v4 (UInt32.ofNat (ofBe fields))

/-- `netip.ParseAddr`: the first dot, colon or percent sign decides the family. -/
def parseAddr : Option Addr :=
  match text.find? fun byte => byte == dot || byte == colon || byte == 0x25 with
  | none => none
  | some byte =>
    if byte = dot then parseIPv4 text else if byte = colon then parseIPv6 text else none

/-- A textual address without a zone in sixteen-byte form, `net.ParseIP`. -/
def parseIP : Option IP :=
  match parseAddr text with
  | none => none
  | some address => if address.zone = [] then some address.as16 else none

/-- `dtoi` over the whole text, below `0xffffff`. -/
def decimal : Option Nat :=
  if text = [] then none
  else text.foldl (fun value byte => do
    let value ← value
    let digit ← decimalDigit byte
    if value * 10 + digit < 0xffffff then some (value * 10 + digit) else none) (some 0)

/-- A decimal number of sixteen bits, `strconv.ParseUint(text, 10, 16)`. -/
def parseUint16 : Option UInt16 :=
  if text = [] then none
  else (text.foldl (fun value byte => do
    let value ← value
    let digit ← decimalDigit byte
    if value * 10 + digit < 2 ^ 16 then some (value * 10 + digit) else none) (some 0)).map
      UInt16.ofNat

/-- The network of an address and a prefix length: masked bytes in the family's own form. -/
def networkOf (address : Addr) (ones : Nat) : IPNet :=
  match address with
  | .v4 value => ⟨maskBytes (beBytes 4 value.toNat) (leadingMask 4 ones), leadingMask 4 ones⟩
  | other => ⟨maskBytes other.as16 (leadingMask 16 ones), leadingMask 16 ones⟩

/-- A textual network, the second result of `net.ParseCIDR`. -/
def parseCIDR : Option IPNet :=
  match indexByte text 0x2f with
  | none => none
  | some position =>
    match parseAddr (text.take position), decimal (text.drop (position + 1)) with
    | some address, some ones =>
      if address.zone = [] ∧ ones ≤ address.bitLen then some (networkOf address ones) else none
    | _, _ => none

/-- Host and port of an address, `net.SplitHostPort`; none for every refused form. -/
def splitHostPort : Option (GoString × GoString) :=
  match lastIndexByte text colon with
  | none => none
  | some last =>
    let port := text.drop (last + 1)
    if text.head? = some 0x5b then
      match indexByte text 0x5d with
      | none => none
      | some close =>
        if close + 1 ≠ last then none
        else if (text.drop 1).contains 0x5b || (text.drop (close + 1)).contains 0x5d then none
        else some ((text.take close).drop 1, port)
    else
      let host := text.take last
      if host.contains colon || text.contains 0x5b || text.contains 0x5d then none
      else some (host, port)

theorem simpleMaskLength_leadingMask :
    (∀ ones : Fin 33, simpleMaskLength (leadingMask 4 ones.val) = some ones.val) ∧
      ∀ ones : Fin 129, simpleMaskLength (leadingMask 16 ones.val) = some ones.val := by
  constructor <;> decide +kernel

theorem networkOf_size (address : Addr) (ones : Nat) (valid : address ≠ .zero)
    (fits : ones ≤ address.bitLen) : (networkOf address ones).size = (ones, address.bitLen) := by
  cases address with
  | zero => contradiction
  | v4 value =>
    have length := simpleMaskLength_leadingMask.1 ⟨ones, Nat.lt_succ_of_le fits⟩
    simp [IPNet.size, networkOf, length, Addr.bitLen]
  | v6 value zone =>
    have length := simpleMaskLength_leadingMask.2 ⟨ones, Nat.lt_succ_of_le fits⟩
    simp [IPNet.size, networkOf, length, Addr.bitLen]

theorem parseAddr_ne_zero {text : GoString} {address : Addr}
    (parsed : parseAddr text = some address) : address ≠ .zero := by
  rintro rfl
  unfold parseAddr at parsed
  split at parsed
  · contradiction
  split at parsed
  · simp [parseIPv4] at parsed
  split at parsed
  · unfold parseIPv6 at parsed
    split at parsed
    · simp at parsed
    · dsimp only at parsed
      split at parsed <;> simp at parsed
  · contradiction

theorem parseCIDR_networkOf {text : GoString} {network : IPNet}
    (parsed : parseCIDR text = some network) :
    ∃ address ones, address ≠ .zero ∧ ones ≤ address.bitLen ∧ network = networkOf address ones := by
  unfold parseCIDR at parsed
  split at parsed
  · contradiction
  split at parsed
  · rename_i address ones found _
    split at parsed
    · rename_i accepted
      exact ⟨address, ones, parseAddr_ne_zero found, accepted.2, (Option.some.inj parsed).symm⟩
    · contradiction
  · contradiction

theorem ofBe_masked {width value ones : Nat} (small : value < 256 ^ width)
    (fits : ones ≤ 8 * width) :
    ofBe (maskBytes (beBytes width value) (leadingMask width ones)) =
      value / 2 ^ (8 * width - ones) * 2 ^ (8 * width - ones) := by
  have masked := ofBe_maskBytes (beBytes width value) ones (by rw [beBytes_length]; exact fits)
  rw [beBytes_length, ofBe_beBytes_of_lt small] at masked
  exact masked

theorem networkOf_v4 (value : UInt32) (ones : Nat) (fits : ones ≤ 32) :
    (networkOf (.v4 value) ones).ip.length = 4 ∧
      ofBe (networkOf (.v4 value) ones).ip = value.toNat / 2 ^ (32 - ones) * 2 ^ (32 - ones) := by
  refine ⟨by simp [networkOf, maskBytes], ofBe_masked ?_ fits⟩
  exact Nat.lt_of_lt_of_le value.toNat_lt (by decide)

theorem networkOf_v6 (value : BitVec 128) (zone : GoString) (ones : Nat) (fits : ones ≤ 128) :
    (networkOf (.v6 value zone) ones).ip.length = 16 ∧
      ofBe (networkOf (.v6 value zone) ones).ip =
        value.toNat / 2 ^ (128 - ones) * 2 ^ (128 - ones) := by
  refine ⟨by simp [networkOf, Addr.as16, maskBytes], ofBe_masked ?_ fits⟩
  exact Nat.lt_of_lt_of_le value.isLt (by decide)

def IPNet.hostBits (network : IPNet) : Nat := network.size.2 - network.size.1

theorem parseCIDR_to4_aligned {text : GoString} {network : IPNet} {four : IP}
    (parsed : parseCIDR text = some network) (short : to4 network.ip = some four) :
    network.hostBits ≤ 32 ∧ ofBe four % 2 ^ network.hostBits = 0 := by
  have ⟨address, ones, valid, fits, same⟩ := parseCIDR_networkOf parsed
  subst same
  unfold IPNet.hostBits
  rw [networkOf_size address ones valid fits]
  cases address with
  | zero => contradiction
  | v4 value =>
    have ⟨length, number⟩ := networkOf_v4 value ones fits
    rw [to4_four length] at short
    have same := Option.some.inj short
    rw [← same, number]
    exact ⟨Nat.sub_le 32 ones, Nat.mul_mod_left _ _⟩
  | v6 value zone =>
    have ⟨length, number⟩ := networkOf_v6 value zone ones fits
    unfold to4 at short
    rw [if_neg (by rw [length]; decide)] at short
    split at short
    · rename_i mapped
      have same := Option.some.inj short
      have whole := ofBe_append ((networkOf (.v6 value zone) ones).ip.take 12)
        ((networkOf (.v6 value zone) ones).ip.drop 12)
      have low := ofBe_lt ((networkOf (.v6 value zone) ones).ip.drop 12)
      have width : ((networkOf (.v6 value zone) ones).ip.drop 12).length = 4 := by
        rw [length_drop, length]
      have mark : ofBe v4InV6 = 65535 := by decide
      rw [take_append_drop, mapped.2, mark, width, same, number] at whole
      rw [width, same] at low
      have aligned : (value.toNat / 2 ^ (128 - ones) * 2 ^ (128 - ones)) % 2 ^ (128 - ones) = 0 :=
        Nat.mul_mod_left _ _
      rw [whole] at aligned
      have few : 128 - ones ≤ 32 := by
        by_contra many
        have split : 2 ^ (128 - ones) = 2 ^ 33 * 2 ^ (128 - ones - 33) := by
          rw [← Nat.pow_add]
          congr 1
          omega
        have coarse : (65535 * 256 ^ 4 + ofBe four) % 2 ^ 33 = 0 := by
          rw [split] at aligned
          exact Nat.mod_eq_zero_of_dvd
            (Nat.dvd_trans (Nat.dvd_mul_right _ _) (Nat.dvd_of_mod_eq_zero aligned))
        omega
      refine ⟨few, ?_⟩
      have marked : 65535 * 256 ^ 4 = 65535 * 2 ^ (32 - (128 - ones)) * 2 ^ (128 - ones) := by
        rw [Nat.mul_assoc, ← Nat.pow_add, Nat.sub_add_cancel few]
        rfl
      rw [marked, Nat.mul_add_mod_self_right] at aligned
      exact aligned
    · contradiction

inductive Transport where
  | tcp
  | udp
  deriving DecidableEq

/-- What a resolver answers and which of the resolved addresses a dial uses. Look-ups are numbered;
two look-ups of one name need not agree. -/
structure Network where
  /-- Textual addresses a look-up of a name returns; none when it fails. -/
  answer : Nat → GoString → Option (List GoString)
  lookupPort : Transport → GoString → Option Nat
  /-- Addresses of a resolved list that are connected to or sent a datagram. -/
  attempts : Transport → List Addr → List Addr
  attempts_mem : ∀ transport addrs addr, addr ∈ attempts transport addrs → addr ∈ addrs

namespace Network

variable (network : Network)

/-- `net.LookupHost`: a literal address is its own answer. -/
def lookupHost (query : Nat) (host : GoString) : Option (List GoString) :=
  if host = [] then none
  else if (parseAddr host).isSome then some [host]
  else network.answer query host

/-- The address of the local system, which an empty host stands for. -/
def localhost : Addr := .v4 0x7f000001

/-- The addresses a dial resolves a target to, by a look-up of its own. -/
def addrList (query : Nat) (transport : Transport) (target : GoString) : List Addr :=
  if target = [] then
    match transport with
    | .tcp => []
    | .udp => [localhost]
  else
    match splitHostPort target with
    | none => []
    | some (host, port) =>
      match network.lookupPort transport port with
      | none => []
      | some _ =>
        if host = [] then [localhost]
        else ((network.lookupHost query host).getD []).filterMap parseAddr

def dial (query : Nat) (transport : Transport) (target : GoString) : List Addr :=
  network.attempts transport (network.addrList query transport target)

variable {host target : GoString} {transport : Transport}

theorem ne_nil_of_literal {addr : Addr} (literal : parseAddr host = some addr) : host ≠ [] := by
  intro empty
  subst empty
  cases literal

variable (network : Network) (query : Nat) {port : GoString}

theorem ne_nil_of_split (split : splitHostPort target = some (host, port)) :
    target ≠ [] := by
  intro empty
  subst empty
  cases split

theorem lookupHost_literal {addr : Addr}
    (literal : parseAddr host = some addr) : network.lookupHost query host = some [host] := by
  rw [lookupHost, if_neg (ne_nil_of_literal literal), literal]
  rfl

theorem lookupHost_name
    (named : parseAddr host = none) (known : host ≠ []) :
    network.lookupHost query host = network.answer query host := by
  rw [lookupHost, if_neg known, named]
  rfl

theorem addrList_unsplit (transport : Transport)
    (given : target ≠ []) (unsplit : splitHostPort target = none) :
    network.addrList query transport target = [] := by
  unfold addrList
  rw [if_neg given, unsplit]

theorem addrList_unknown_port (split : splitHostPort target = some (host, port))
    (service : network.lookupPort transport port = none) :
    network.addrList query transport target = [] := by
  unfold addrList
  rw [if_neg (ne_nil_of_split split), split]
  dsimp only
  rw [service]

theorem addrList_split (split : splitHostPort target = some (host, port))
    (service : (network.lookupPort transport port).isSome) (known : host ≠ []) :
    network.addrList query transport target =
      ((network.lookupHost query host).getD []).filterMap parseAddr := by
  have ⟨number, found⟩ := Option.isSome_iff_exists.mp service
  unfold addrList
  rw [if_neg (ne_nil_of_split split), split]
  dsimp only
  rw [found]
  exact if_neg known

theorem dial_eq_nil {network : Network} {query : Nat}
    (unresolved : network.addrList query transport target = []) :
    network.dial query transport target = [] := by
  rw [dial, unresolved, eq_nil_iff_forall_not_mem]
  intro addr used
  exact not_mem_nil (network.attempts_mem transport [] addr used)

end Network

end Shuttle.Go
