import Shuttle.Transport.Addr

/-!
# Request headers of the proxied protocols

The requests of `transport/vless`, `transport/trojan` and `transport/vmess` put an address between
fields of their own. A VLESS request loses its flow and its network; a Trojan request expects a hash
of 56 bytes; a VMess request is sealed. Each comes back with its address exactly when the address is
one that comes back on its own.
-/

namespace Shuttle.Transport

open Shuttle.Go Shuttle.Lib Shuttle.Proxy List Parser

theorem encoded_form {network target : GoString} {around : List UInt8 → List UInt8}
    {bytes : List UInt8} (encoded : (match encodeAddr network target with
      | .error cause => .error cause
      | .ok addr => .ok (around addr)) = Except.ok bytes) :
    ∃ address port, bytes = around (addrBytes address port) ∧
      (SameAddress target (addrText address port) ↔ Portable target) := by
  split at encoded
  · cases encoded
  rename_i written
  have ⟨_, _, port, address, split, number, form, same⟩ := encodeAddr_ok written
  cases encoded
  exact ⟨address, port, congrArg around same, sameAddress_iff split number form⟩

/-! ## VLESS -/

namespace VLESS

def version : UInt8 := 0

structure RequestHeader where
  uuid : Bytes 16
  cmd : UInt8
  /-- "tcp" or "udp". -/
  network : GoString
  address : GoString
  /-- The flow; no addons when it is empty. -/
  flow : GoString

inductive RequestError where
  /-- "read request header". -/
  | readHeader (cause : Frames.FrameError)
  /-- "unsupported version %d". -/
  | unsupportedVersion (version : UInt8)
  /-- "skip addons". -/
  | skipAddons (cause : Frames.FrameError)
  /-- "read cmd". -/
  | readCmd (cause : Frames.FrameError)
  /-- "decode addr". -/
  | decodeAddr (cause : AddrError)

/-- The addons of a flow; its length is taken modulo 256. -/
def addons (flow : GoString) : List UInt8 :=
  if flow = [] then [] else 0x0a :: UInt8.ofNat flow.length :: flow

/-- The bytes of a request; the length of the addons is taken modulo 256. -/
def encodeRequest (h : RequestHeader) : Except AddrError (List UInt8) :=
  match encodeAddr h.network h.address with
  | .error cause => .error cause
  | .ok addr =>
    .ok (version :: (h.uuid.val ++ UInt8.ofNat (addons h.flow).length :: (addons h.flow ++
      h.cmd :: addr)))

def skipAddons (addonLen : Nat) : Parser RequestError Unit :=
  if 0 < addonLen then do
    let _ ← take addonLen .skipAddons
    return ()
  else return ()

def decodeRequest : Parser RequestError RequestHeader := do
  let buf ← take 18 .readHeader
  if buf.val.getD 0 0 ≠ version then throw (.unsupportedVersion (buf.val.getD 0 0))
  else do
    skipAddons (buf.val.getD 17 0).toNat
    let cmdBuf ← take 1 .readCmd
    let (network, address) ← adapt .decodeAddr decodeAddr
    return { uuid := ⟨(buf.val.drop 1).take 16, by simp [buf.property]⟩,
             cmd := cmdBuf.val.getD 0 0, network := network, address := address, flow := [] }

theorem decodeRequest_fixed {input rest : List UInt8} {h : RequestHeader}
    (decoded : decodeRequest input = .ok (h, rest)) : h.network = lit "tcp" ∧ h.flow = [] := by
  have ⟨buf, _, _, checked⟩ := bind_inv decoded
  split at checked
  · exact absurd checked throw_ne_ok
  have ⟨_, _, _, skipped⟩ := bind_inv checked
  have ⟨_, _, _, commanded⟩ := bind_inv skipped
  have ⟨_, _, addressed, returned⟩ := bind_inv commanded
  have network := decodeAddr_network (adapt_inv addressed)
  cases returned
  exact ⟨network, rfl⟩

theorem decodeRequest_plain (uuid : Bytes 16) (cmd : UInt8) (address : Address) (port : UInt16)
    (payload : List UInt8) :
    decodeRequest (version :: (uuid.val ++ 0 :: cmd :: addrBytes address port) ++ payload) =
      .ok (⟨uuid, cmd, lit "tcp", addrText address port, []⟩, payload) := by
  have length : (version :: (uuid.val ++ [0])).length = 18 := by
    rw [length_cons, length_append, uuid.property]
    rfl
  have shape : version :: (uuid.val ++ 0 :: cmd :: addrBytes address port) ++ payload =
      version :: (uuid.val ++ [0]) ++ (cmd :: (addrBytes address port ++ payload)) := by
    simp
  have first : take 18 RequestError.readHeader
      (version :: (uuid.val ++ 0 :: cmd :: addrBytes address port) ++ payload) =
        .ok (⟨version :: (uuid.val ++ [0]), length⟩,
          cmd :: (addrBytes address port ++ payload)) := by
    rw [shape]
    exact take_append length _
  have none : (version :: (uuid.val ++ [0])).getD 17 0 = 0 := by
    have past : uuid.val.length ≤ 16 := Nat.le_of_eq uuid.property
    rw [getD_eq_getElem?_getD, List.getElem?_cons_succ, List.getElem?_append_right past,
      uuid.property]
    rfl
  have user : ((version :: (uuid.val ++ [0])).drop 1).take 16 = uuid.val := by
    rw [drop_one, tail_cons, take_left' uuid.property]
  have last : adapt RequestError.decodeAddr decodeAddr (addrBytes address port ++ payload) =
      .ok ((lit "tcp", addrText address port), payload) :=
    adapt_ok (decodeAddr_addrBytes address port payload)
  unfold decodeRequest
  rw [bind_ok first]
  rw [none]
  refine (bind_ok rfl).trans ?_
  refine (bind_ok (take_one cmd _)).trans ?_
  refine (bind_ok last).trans ?_
  simp only [user]
  rfl

theorem encodeRequest_readsBack {h : RequestHeader} {bytes : List UInt8}
    (encoded : encodeRequest h = .ok bytes) :
    decodeRequest.ReadsBack bytes (fun decoded => decoded.uuid = h.uuid ∧ decoded.cmd = h.cmd ∧
        decoded.network = h.network ∧ decoded.flow = h.flow ∧
        SameAddress h.address decoded.address) ↔
      h.network = lit "tcp" ∧ h.flow = [] ∧ Portable h.address := by
  obtain ⟨address, port, rfl, same⟩ := encoded_form encoded
  have back (plain : h.flow = []) : decodeRequest.ReadsBack
      (version :: (h.uuid.val ++ UInt8.ofNat (addons h.flow).length :: (addons h.flow ++
        h.cmd :: addrBytes address port))) (fun decoded =>
      decoded.uuid = h.uuid ∧ decoded.cmd = h.cmd ∧ decoded.network = h.network ∧
      decoded.flow = h.flow ∧ SameAddress h.address decoded.address) ↔
        lit "tcp" = h.network ∧ SameAddress h.address (addrText address port) := by
    rw [plain]
    refine (readsBack_iff (decodeRequest_plain h.uuid h.cmd address port)).trans ?_
    simp
  constructor
  · intro whole
    have ⟨_, decoded, _, found, _, _, network, flow, _⟩ := whole.elim
    have ⟨tcp, plain⟩ := decodeRequest_fixed found
    have none : h.flow = [] := flow.symm.trans plain
    have ⟨_, sameAddress⟩ := (back none).mp whole
    exact ⟨network.symm.trans tcp, none, same.mp sameAddress⟩
  · rintro ⟨tcp, plain, portable⟩
    exact (back plain).mpr ⟨tcp.symm, same.mpr portable⟩

end VLESS

/-! ## Trojan -/

namespace Trojan

def hashLen : Nat := 56

def crlf : List UInt8 := [0x0d, 0x0a]

inductive RequestError where
  /-- "read hash+CRLF". -/
  | readHash (cause : Frames.FrameError)
  /-- "expected CRLF after hash, got %q". -/
  | expectedCRLF (got : List UInt8)
  /-- "read cmd". -/
  | readCmd (cause : Frames.FrameError)
  /-- "read addr". -/
  | readAddr (cause : AddrError)
  /-- "read trailing CRLF". -/
  | readTrailing (cause : Frames.FrameError)
  /-- "expected trailing CRLF, got %q". -/
  | expectedTrailing (got : List UInt8)

def encodeRequest (passwordHash : GoString) (cmd : UInt8) (address : GoString) :
    Except AddrError (List UInt8) :=
  match encodeAddr (lit "tcp") address with
  | .error cause => .error cause
  | .ok addr => .ok (passwordHash ++ crlf ++ (cmd :: (addr ++ crlf)))

def decodeRequest : Parser RequestError (GoString × UInt8 × GoString) := do
  let buf ← take (hashLen + 2) .readHash
  if buf.val.drop hashLen ≠ crlf then throw (.expectedCRLF (buf.val.drop hashLen))
  else do
    let cmdBuf ← take 1 .readCmd
    let (_, address) ← adapt .readAddr decodeAddr
    let crlfBuf ← take 2 .readTrailing
    if crlfBuf.val ≠ crlf then throw (.expectedTrailing crlfBuf.val)
    else return (buf.val.take hashLen, cmdBuf.val.getD 0 0, address)

theorem decodeRequest_hash {input rest : List UInt8} {hash : GoString} {cmd : UInt8}
    {address : GoString} (decoded : decodeRequest input = .ok ((hash, cmd, address), rest)) :
    hash.length = hashLen := by
  have ⟨buf, _, _, checked⟩ := bind_inv decoded
  split at checked
  · exact absurd checked throw_ne_ok
  have ⟨_, _, _, commanded⟩ := bind_inv checked
  have ⟨_, _, _, addressed⟩ := bind_inv commanded
  have ⟨_, _, _, ended⟩ := bind_inv addressed
  split at ended
  · exact absurd ended throw_ne_ok
  · cases ended
    rw [length_take, buf.property]
    rfl

theorem decodeRequest_hashed {hash : GoString} (length : hash.length = hashLen) (cmd : UInt8)
    (address : Address) (port : UInt16) (payload : List UInt8) :
    decodeRequest (hash ++ crlf ++ (cmd :: (addrBytes address port ++ crlf)) ++ payload) =
      .ok ((hash, cmd, addrText address port), payload) := by
  have whole : (hash ++ crlf).length = hashLen + 2 := by
    rw [length_append, length]
    rfl
  have shape : cmd :: (addrBytes address port ++ crlf) ++ payload =
      cmd :: (addrBytes address port ++ (crlf ++ payload)) := by
    simp
  have marked : (hash ++ crlf).drop hashLen = crlf ∧ (hash ++ crlf).take hashLen = hash :=
    ⟨drop_left' length, take_left' length⟩
  have target : adapt RequestError.readAddr decodeAddr
      (addrBytes address port ++ (crlf ++ payload)) =
        .ok ((lit "tcp", addrText address port), crlf ++ payload) :=
    adapt_ok (decodeAddr_addrBytes address port _)
  unfold decodeRequest
  rw [append_assoc, shape, bind_ok (take_append whole _)]
  rw [marked.1, marked.2]
  refine (bind_ok (take_one cmd _)).trans ?_
  refine (bind_ok target).trans ?_
  exact bind_ok (take_append (rfl : crlf.length = 2) payload)

theorem encodeRequest_readsBack {passwordHash : GoString} {cmd : UInt8} {target : GoString}
    {bytes : List UInt8} (encoded : encodeRequest passwordHash cmd target = .ok bytes) :
    decodeRequest.ReadsBack bytes (fun decoded => decoded.1 = passwordHash ∧ decoded.2.1 = cmd ∧
        SameAddress target decoded.2.2) ↔
      passwordHash.length = hashLen ∧ Portable target := by
  obtain ⟨address, port, rfl, same⟩ := encoded_form encoded
  have back (length : passwordHash.length = hashLen) : decodeRequest.ReadsBack
      (passwordHash ++ crlf ++ (cmd :: (addrBytes address port ++ crlf))) (fun decoded =>
        decoded.1 = passwordHash ∧ decoded.2.1 = cmd ∧ SameAddress target decoded.2.2) ↔
      Portable target := by
    refine (readsBack_iff (decodeRequest_hashed length cmd address port)).trans ?_
    rw [same]
    simp
  constructor
  · intro whole
    have ⟨_, decoded, _, found, hash, _, _⟩ := whole.elim
    have length : passwordHash.length = hashLen := by
      rw [← hash]
      exact decodeRequest_hash found
    exact ⟨length, (back length).mp whole⟩
  · rintro ⟨length, portable⟩
    exact (back length).mpr portable

end Trojan

/-! ## VMess -/

namespace VMess

def cmdUDP : UInt8 := 0x02

structure RequestHeader where
  version : UInt8
  command : UInt8
  security : UInt8
  address : GoString
  /-- Seed of the nonces of the body. -/
  dataIV : Bytes 8
  /-- Seed of the key of the body. -/
  dataKey : Bytes 8

/-- The cryptographic functions, the sealing an ideal one. -/
structure Primitives where
  deriveKey : Bytes 16 → Bytes 16
  computeAuthID : Bytes 16 → Int → Bytes 16
  gcmSeal : Bytes 16 → Bytes 12 → List UInt8 → List UInt8
  /-- Its inverse, none for what was not sealed. -/
  gcmOpen : Bytes 16 → Bytes 12 → List UInt8 → Option (List UInt8)
  gcmOpen_gcmSeal : ∀ key nonce plain, gcmOpen key nonce (gcmSeal key nonce plain) = some plain
  gcmSeal_length : ∀ key nonce plain, (gcmSeal key nonce plain).length = plain.length + 16

inductive RequestError where
  /-- "read auth_id". -/
  | readAuthID (cause : Frames.FrameError)
  /-- "unknown auth_id". -/
  | unknownAuthID
  /-- "read nonce". -/
  | readNonce (cause : Frames.FrameError)
  /-- "read header length". -/
  | readLength (cause : Frames.FrameError)
  /-- "read encrypted header". -/
  | readHeader (cause : Frames.FrameError)
  /-- "decrypt header". -/
  | decrypt
  /-- "header too short (%d bytes)". -/
  | headerTooShort (length : Nat)
  /-- "decode addr". -/
  | decodeAddr (cause : AddrError)
  /-- "missing data IV/key (%d bytes left)". -/
  | missingSeeds (left : Nat)

def marshalHeader (hdr : RequestHeader) : Except AddrError (List UInt8) :=
  let network := if hdr.command = cmdUDP then lit "udp" else lit "tcp"
  match encodeAddr network hdr.address with
  | .error cause => .error cause
  | .ok addr =>
    .ok ([hdr.version, hdr.command, hdr.security] ++ (addr ++ (hdr.dataIV.val ++ hdr.dataKey.val)))

def unmarshalHeader (data : List UInt8) : Except RequestError RequestHeader :=
  if data.length < 3 + 1 + 2 + 8 + 8 then .error (.headerTooShort data.length)
  else
    match decodeAddr (data.drop 3) with
    | .error cause => .error (.decodeAddr cause)
    | .ok ((_, addr), remaining) =>
      if short : remaining.length < 16 then .error (.missingSeeds remaining.length)
      else
        .ok { version := data.getD 0 0, command := data.getD 1 0, security := data.getD 2 0,
              address := addr,
              dataIV := ⟨remaining.take 8, by rw [List.length_take]; omega⟩,
              dataKey := ⟨(remaining.drop 8).take 8, by
                rw [List.length_take, List.length_drop]; omega⟩ }

variable (prim : Primitives)

def encodeRequest (uuid : Bytes 16) (timestamp : Int) (nonce : Bytes 12)
    (hdr : RequestHeader) : Except AddrError (List UInt8) :=
  match marshalHeader hdr with
  | .error cause => .error cause
  | .ok plain =>
    let ct := prim.gcmSeal (prim.deriveKey uuid) nonce plain
    .ok ((prim.computeAuthID uuid timestamp).val ++ (nonce.val ++
      (beBytes 2 (ct.length % 2 ^ 16) ++ ct)))

def openHeader (uuid : Bytes 16) (nonce : Bytes 12) (ct : List UInt8) :
    Except RequestError RequestHeader :=
  match prim.gcmOpen (prim.deriveKey uuid) nonce ct with
  | none => .error .decrypt
  | some plain => unmarshalHeader plain

def decodeRequest (lookup : Bytes 16 → Option (Bytes 16)) :
    Parser RequestError RequestHeader := do
  let authID ← take 16 .readAuthID
  match lookup authID with
  | none => throw .unknownAuthID
  | some uuid => do
    let nonce ← take 12 .readNonce
    let lenBuf ← take 2 .readLength
    let ct ← take (ofBe lenBuf.val) .readHeader
    match openHeader prim uuid nonce ct.val with
    | .error cause => throw cause
    | .ok hdr => return hdr

theorem unmarshalHeader_plain (version command security : UInt8) (address : Address) (port : UInt16)
    (dataIV dataKey : Bytes 8) :
    unmarshalHeader ([version, command, security] ++ (addrBytes address port ++
        (dataIV.val ++ dataKey.val))) =
      .ok ⟨version, command, security, addrText address port, dataIV, dataKey⟩ := by
  have seeds : (dataIV.val ++ dataKey.val).length = 16 := by
    rw [length_append, dataIV.property, dataKey.property]
  have enough := (addrBytes_length address port).1
  have long : ¬([version, command, security] ++ (addrBytes address port ++
      (dataIV.val ++ dataKey.val))).length < 3 + 1 + 2 + 8 + 8 := by
    rw [length_append, length_append]
    have three : [version, command, security].length = 3 := rfl
    omega
  have behind : ([version, command, security] ++ (addrBytes address port ++
      (dataIV.val ++ dataKey.val))).drop 3 =
        addrBytes address port ++ (dataIV.val ++ dataKey.val) := rfl
  have parts : (dataIV.val ++ dataKey.val).take 8 = dataIV.val ∧
      ((dataIV.val ++ dataKey.val).drop 8).take 8 = dataKey.val := by
    refine ⟨take_left' dataIV.property, ?_⟩
    rw [drop_left' dataIV.property, take_of_length_le (Nat.le_of_eq dataKey.property)]
  unfold unmarshalHeader
  rw [if_neg long, behind, decodeAddr_addrBytes]
  dsimp only
  rw [dif_neg (by omega)]
  simp only [parts]
  rfl

variable {lookup : Bytes 16 → Option (Bytes 16)}

theorem decodeRequest_sealed {prim : Primitives}
    {authID uuid : Bytes 16} (found : lookup authID = some uuid) (nonce : Bytes 12)
    {plain : List UInt8} (small : plain.length + 16 < 2 ^ 16) {hdr : RequestHeader}
    (read : unmarshalHeader plain = .ok hdr) (payload : List UInt8) :
    let ct := prim.gcmSeal (prim.deriveKey uuid) nonce plain
    decodeRequest prim lookup (authID.val ++ (nonce.val ++
      (beBytes 2 (ct.length % 2 ^ 16) ++ ct)) ++ payload) = .ok (hdr, payload) := by
  intro ct
  have length : ct.length = plain.length + 16 := prim.gcmSeal_length _ _ _
  have number : ofBe (beBytes 2 (ct.length % 2 ^ 16)) = ct.length := by
    rw [Nat.mod_eq_of_lt (by omega)]
    exact ofBe_beBytes_of_lt (by omega)
  have opened : openHeader prim uuid nonce ct = .ok hdr := by
    unfold openHeader
    rw [prim.gcmOpen_gcmSeal]
    exact read
  unfold decodeRequest
  rw [append_assoc, bind_ok (take_append authID.property _)]
  rw [found, append_assoc]
  refine (bind_ok (take_append nonce.property _)).trans ?_
  refine (bind_ok (take_append (beBytes_length 2 _) _)).trans ?_
  refine (bind_ok (take_append number.symm payload)).trans ?_
  rw [opened]
  rfl

theorem encodeRequest_readsBack {prim : Primitives} {uuid : Bytes 16} {timestamp : Int}
    (found : lookup (prim.computeAuthID uuid timestamp) = some uuid) {nonce : Bytes 12}
    {hdr : RequestHeader} {bytes : List UInt8}
    (encoded : encodeRequest prim uuid timestamp nonce hdr = .ok bytes) :
    (decodeRequest prim lookup).ReadsBack bytes (fun decoded => decoded.version = hdr.version ∧
        decoded.command = hdr.command ∧ decoded.security = hdr.security ∧
        decoded.dataIV = hdr.dataIV ∧ decoded.dataKey = hdr.dataKey ∧
        SameAddress hdr.address decoded.address) ↔
      Portable hdr.address := by
  unfold encodeRequest marshalHeader at encoded
  split at encoded
  · cases encoded
  rename_i marshalled
  obtain ⟨address, port, rfl, same⟩ := encoded_form marshalled
  cases encoded
  have plain := unmarshalHeader_plain hdr.version hdr.command hdr.security address port hdr.dataIV
    hdr.dataKey
  have small : ([hdr.version, hdr.command, hdr.security] ++ (addrBytes address port ++
      (hdr.dataIV.val ++ hdr.dataKey.val))).length + 16 < 2 ^ 16 := by
    have bound := (addrBytes_length address port).2
    rw [length_append, length_append, length_append, hdr.dataIV.property, hdr.dataKey.property]
    have three : [hdr.version, hdr.command, hdr.security].length = 3 := rfl
    omega
  refine (readsBack_iff (decodeRequest_sealed found nonce small plain)).trans ?_
  rw [same]
  simp

end VMess

/-! ## All of them -/

/-- Accepted addresses and requests (sealing ideal, the sender found) are consumed exactly, whatever
follows them, and yield the same fields and address if and only if the address is portable, the
network of an address or VLESS request is `tcp`, a VLESS request has no flow, and a Trojan hash has
56 bytes. -/
theorem request_headers_read_back_iff (prim : VMess.Primitives) :
    (∀ network address bytes, encodeAddr network address = .ok bytes →
      (decodeAddr.ReadsBack bytes
          (fun decoded => decoded.1 = network ∧ SameAddress address decoded.2) ↔
        network = lit "tcp" ∧ Portable address)) ∧
    (∀ h bytes, VLESS.encodeRequest h = .ok bytes →
      (VLESS.decodeRequest.ReadsBack bytes (fun decoded => decoded.uuid = h.uuid ∧
          decoded.cmd = h.cmd ∧ decoded.network = h.network ∧ decoded.flow = h.flow ∧
          SameAddress h.address decoded.address) ↔
        h.network = lit "tcp" ∧ h.flow = [] ∧ Portable h.address)) ∧
    (∀ passwordHash cmd address bytes, Trojan.encodeRequest passwordHash cmd address = .ok bytes →
      (Trojan.decodeRequest.ReadsBack bytes (fun decoded => decoded.1 = passwordHash ∧
          decoded.2.1 = cmd ∧ SameAddress address decoded.2.2) ↔
        passwordHash.length = Trojan.hashLen ∧ Portable address)) ∧
    ∀ lookup uuid timestamp nonce hdr bytes,
      lookup (prim.computeAuthID uuid timestamp) = some uuid →
      VMess.encodeRequest prim uuid timestamp nonce hdr = .ok bytes →
      ((VMess.decodeRequest prim lookup).ReadsBack bytes (fun decoded =>
          decoded.version = hdr.version ∧ decoded.command = hdr.command ∧
          decoded.security = hdr.security ∧ decoded.dataIV = hdr.dataIV ∧
          decoded.dataKey = hdr.dataKey ∧ SameAddress hdr.address decoded.address) ↔
        Portable hdr.address) := by
  refine ⟨fun network address bytes encoded => ?_, fun h bytes => VLESS.encodeRequest_readsBack,
    fun passwordHash cmd address bytes => Trojan.encodeRequest_readsBack,
    fun lookup uuid timestamp nonce hdr bytes found encoded =>
      VMess.encodeRequest_readsBack found encoded⟩
  have ⟨host, portStr, port, framed, split, number, form, same⟩ := encodeAddr_ok encoded
  rw [same, readsBack_iff (decodeAddr_addrBytes framed port),
    sameAddress_iff split number form]
  exact and_congr_left fun _ => eq_comm

def plainPrimitives : VMess.Primitives where
  deriveKey := id
  computeAuthID uuid _ := uuid
  gcmSeal _ _ plain := plain ++ List.replicate 16 0
  gcmOpen _ _ ct := some (ct.take (ct.length - 16))
  gcmOpen_gcmSeal _ _ plain := by simp
  gcmSeal_length _ _ plain := by simp

def namedRequest : VLESS.RequestHeader :=
  ⟨⟨List.replicate 16 7, rfl⟩, 1, lit "tcp", lit "example.com:443", []⟩

theorem namedRequest_read_back :
    ∃ bytes, VLESS.encodeRequest namedRequest = .ok bytes ∧
      VLESS.decodeRequest.ReadsBack bytes (fun decoded => decoded.uuid = namedRequest.uuid ∧
        decoded.cmd = namedRequest.cmd ∧ decoded.network = namedRequest.network ∧
        decoded.flow = namedRequest.flow ∧ SameAddress namedRequest.address decoded.address) := by
  have encoded : (VLESS.encodeRequest namedRequest).toOption.isSome := by decide +kernel
  cases written : VLESS.encodeRequest namedRequest with
  | error cause =>
    rw [written] at encoded
    cases encoded
  | ok bytes =>
    have ⟨_, vless, _, _⟩ := request_headers_read_back_iff plainPrimitives
    exact ⟨bytes, rfl, (vless namedRequest bytes written).mpr ⟨rfl, rfl, (⟨lit "example.com", 443,
      by decide +kernel, .inr (by decide +kernel)⟩)⟩⟩

/-- An IPv6 address with a zone is accepted, and read back as a text that cannot be split. -/
theorem zoned_address_lost :
    ∃ bytes decoded, encodeAddr (lit "tcp") (lit "[fe80::1%eth0]:80") = .ok bytes ∧
      decodeAddr bytes = .ok ((lit "tcp", decoded), []) ∧ splitHostPort decoded = none :=
  ⟨3 :: 12 :: (lit "fe80::1%eth0" ++ [0, 80]), lit "fe80::1%eth0:80", by decide +kernel,
    by decide +kernel, by decide +kernel⟩

end Shuttle.Transport
