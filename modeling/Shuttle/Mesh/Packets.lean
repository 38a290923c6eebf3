import Shuttle.Go.Text
import Shuttle.Go.Words
import Shuttle.Lib.AEAD
import Shuttle.Lib.Machine
import Mathlib.Data.List.Nodup

/-!
# Packets between two peers

A packet is a mark, a type byte, a nonce and the sealed payload. Only the payload is sealed, with no
associated data, and a peer keeps no nonces of packets it has read. An attacker hands any bytes to a
peer, from any address, as often as it likes. The cipher is ideal: what opens under the key of a
peer was sealed by that peer. The model is one direction.
-/

namespace Shuttle.P2P

open Shuttle.Go Shuttle.Lib List

/-! ## Packets -/

def p2pData : UInt8 := 0x01

def p2pKeepAlive : UInt8 := 0x02

def p2pClose : UInt8 := 0x03

def packetTypes : List UInt8 := [p2pData, p2pKeepAlive, p2pClose]

structure Packet where
  typ : UInt8
  nonce : List UInt8
  ciphertext : List UInt8
  payload : List UInt8

def Packet.bytes (packet : Packet) : List UInt8 :=
  lit "P2P1" ++ packet.typ :: (packet.nonce ++ packet.ciphertext)

inductive DecryptError where
  /-- "p2p: packet too short". -/
  | tooShort
  /-- "p2p: invalid magic". -/
  | invalidMagic
  /-- "p2p: decrypt: %w". -/
  | decrypt

/-- `Decrypt`; the type and the payload are returned with the parts they were read from. -/
def decrypt (aead : AEAD) (key data : List UInt8) : Except DecryptError Packet :=
  if data.length < 4 + 1 + 24 + 16 then .error .tooShort
  else if data.take 4 ≠ lit "P2P1" then .error .invalidMagic
  else
    let nonce := (data.drop 5).take 24
    let ciphertext := data.drop 29
    match aead.aeadOpen key nonce ciphertext with
    | none => .error .decrypt
    | some plaintext => .ok ⟨data.getD 4 0, nonce, ciphertext, plaintext⟩

structure Packet.SealedUnder (aead : AEAD) (key : List UInt8) (packet : Packet) : Prop where
  nonce : packet.nonce.length = 24
  ciphertext : packet.ciphertext = aead.aeadSeal key packet.nonce packet.payload

/-- What is read stands in the datagram as it was sent, and its payload opens. -/
theorem bytes_of_decrypt {aead : AEAD} {key data : List UInt8} {packet : Packet}
    (read : decrypt aead key data = .ok packet) : data = packet.bytes ∧
      aead.aeadOpen key packet.nonce packet.ciphertext = some packet.payload := by
  unfold decrypt at read
  split at read
  · cases read
  rename_i long
  split at read
  · cases read
  rename_i mark
  dsimp only at read
  split at read
  · cases read
  · rename_i opened
    cases read
    refine ⟨?_, opened⟩
    have behind : data.drop 4 = data.getD 4 0 :: data.drop 5 := by
      rw [drop_eq_getElem_cons (by omega)]
      simp [getElem?_eq_getElem (show 4 < data.length by omega)]
    have tail : data.drop 29 = (data.drop 5).drop 24 := by rw [drop_drop]
    rw [Packet.bytes, tail, take_append_drop, ← behind, ← not_not.mp mark, take_append_drop]

theorem decrypt_retyped {aead : AEAD} {key : List UInt8} {packet : Packet}
    (made : packet.SealedUnder aead key) (typ : UInt8) :
    decrypt aead key { packet with typ := typ }.bytes = .ok { packet with typ := typ } := by
  have mark : lit "P2P1" = [0x50, 0x32, 0x50, 0x31] := rfl
  have size : packet.ciphertext.length = packet.payload.length + 16 := by
    rw [made.ciphertext, aead.aeadSeal_length]
  have nonce : (packet.nonce ++ packet.ciphertext).take 24 = packet.nonce := by
    rw [← made.nonce, take_left]
  have ciphertext : (packet.nonce ++ packet.ciphertext).drop 24 = packet.ciphertext := by
    rw [← made.nonce, drop_left]
  have opened : aead.aeadOpen key packet.nonce packet.ciphertext = some packet.payload := by
    rw [made.ciphertext, aead.aeadOpen_aeadSeal]
  unfold decrypt Packet.bytes
  rw [mark, if_neg (by simp [made.nonce]; omega), if_neg (by simp)]
  simp only [cons_append, nil_append, drop_succ_cons, drop_zero,
    getD_cons_succ, getD_cons_zero, nonce, ciphertext, opened]

/-! ## A sender, a receiver and the network -/

structure Link where
  /-- The address that the receiver has of the sender. -/
  remoteAddr : GoString
  closed : Bool
  /-- Number of packets sent on the connection, modulo 2^64. -/
  sendNonce : UInt64
  /-- The packets sent so far, on this connection and on earlier ones. -/
  sent : List Packet
  connected : Bool
  accepted : List Packet

inductive LinkEvent where
  /-- `Send`, `SendKeepAlive` or `Close`, by the type of the packet. -/
  | send (typ : UInt8) (data random : List UInt8)
  /-- The sender has a new connection, with the same keys. -/
  | reconnect
  | connected (value : Bool)
  /-- The attacker hands bytes to the receiver. -/
  | deliver (source : GoString) (data : List UInt8)

namespace Link

variable (aead : AEAD) (key : List UInt8)

variable (link : Link)

/-- Data and the end of a connection need one that is not closed, and only data has a payload. -/
def sends (typ : UInt8) (data : List UInt8) : Bool :=
  if typ = p2pData then !link.closed
  else if typ = p2pKeepAlive then data == []
  else typ == p2pClose && !link.closed && data == []

/-- `sendPacket` with the random part of the nonce. -/
def sendPacket (typ : UInt8) (data random : List UInt8) : Link :=
  let nonce := (beBytes 8 link.sendNonce.toNat).reverse ++ random
  { link with
    closed := link.closed || typ == p2pClose
    sendNonce := link.sendNonce + 1
    sent := link.sent ++ [⟨typ, nonce, aead.aeadSeal key nonce data, data⟩] }

def accept (source : GoString) (data : List UInt8) : Option Packet :=
  if link.connected = true ∧ source = link.remoteAddr then
    match decrypt aead key data with
    | .error _ => none
    | .ok packet => if packet.typ ∈ packetTypes then some packet else none
  else none

/-- `handleP2PPacket`: an accepted packet that ends the connection takes it away. -/
def handleP2PPacket (source : GoString) (data : List UInt8) : Link :=
  match link.accept aead key source data with
  | none => link
  | some packet =>
    { link with
      accepted := link.accepted ++ [packet]
      connected := if packet.typ = p2pClose then false else link.connected }

/-- The bytes open as something that the sender did not seal. -/
def forged (data : List UInt8) : Bool :=
  match decrypt aead key data with
  | .error _ => false
  | .ok packet => !link.sent.any fun other =>
      other.nonce == packet.nonce && other.ciphertext == packet.ciphertext

def initial (remoteAddr : GoString) : Link := ⟨remoteAddr, false, 0, [], true, []⟩

/-- The random part of a nonce has 16 bytes, and forged bytes can not be delivered. -/
def step : LinkEvent → Option Link
  | .send typ data random =>
    if random.length = 16 ∧ link.sends typ data = true then
      some (link.sendPacket aead key typ data random)
    else none
  | .reconnect => some { link with closed := false, sendNonce := 0 }
  | .connected value => some { link with connected := value }
  | .deliver source data =>
    if link.forged aead key data then none
    else some (link.handleP2PPacket aead key source data)

def machine : Machine Link LinkEvent := ⟨step aead key⟩

/-! ## What is accepted -/

def Sent (packet : Packet) : Prop :=
  ∃ original ∈ link.sent, original.typ = packet.typ ∧ original.payload = packet.payload

/-- What makes a packet the same one: the nonce and what was sealed with it. -/
def identity (packet : Packet) : List UInt8 × List UInt8 := (packet.nonce, packet.ciphertext)

structure Intact (link : Link) : Prop where
  sent : ∀ packet ∈ link.accepted, link.Sent packet
  once : (link.accepted.map identity).Nodup

/-- The attacker delivers a packet of the sender from its address, with a type that was not sent
with the payload, or after it was accepted. -/
def Abuses : LinkEvent → Prop
  | .deliver source data => link.connected = true ∧ source = link.remoteAddr ∧
      ∃ packet ∈ link.sent, ∃ typ ∈ packetTypes, data = { packet with typ := typ }.bytes ∧
        (¬link.Sent { packet with typ := typ } ∨ identity packet ∈ link.accepted.map identity)
  | _ => False

/-- Every packet sent was sealed under the key, and every accepted payload was sent under its nonce.
-/
structure Sound (link : Link) : Prop where
  allSealed : ∀ packet ∈ link.sent, packet.SealedUnder aead key
  payloads : ∀ packet ∈ link.accepted, ∃ original ∈ link.sent,
    identity original = identity packet ∧ original.payload = packet.payload

variable {aead key} {link next : Link} {event : LinkEvent}

theorem accept_iff {source : GoString} {data : List UInt8} {packet : Packet} :
    link.accept aead key source data = some packet ↔ link.connected = true ∧
      source = link.remoteAddr ∧ decrypt aead key data = .ok packet ∧
      packet.typ ∈ packetTypes := by
  unfold accept
  by_cases heard : link.connected = true ∧ source = link.remoteAddr
  · rw [if_pos heard, ← and_assoc, and_iff_right heard]
    cases decrypt aead key data with
    | error failure => simp
    | ok found =>
      simp only [Option.ite_none_right_eq_some, Option.some.injEq, Except.ok.injEq]
      exact ⟨fun ⟨known, same⟩ => ⟨same, same ▸ known⟩, fun ⟨same, known⟩ => ⟨same ▸ known, same⟩⟩
  · rw [if_neg heard]
    exact ⟨nofun, fun ⟨connected, from_, _⟩ => absurd ⟨connected, from_⟩ heard⟩

/-- A packet of the sender is accepted with any type. -/
theorem Sound.accept_retyped (sound : Sound aead key link) (connected : link.connected = true)
    {packet : Packet} (sent : packet ∈ link.sent) {typ : UInt8} (known : typ ∈ packetTypes) :
    link.accept aead key link.remoteAddr { packet with typ := typ }.bytes =
      some { packet with typ := typ } :=
  accept_iff.mpr ⟨connected, rfl, decrypt_retyped (sound.allSealed packet sent) typ, known⟩

theorem step_effect (sound : Sound aead key link)
    (stepped : (machine aead key).step link event = some next) :
    (∃ fresh, (∀ packet ∈ fresh, packet.SealedUnder aead key) ∧ next.sent = link.sent ++ fresh ∧
        next.accepted = link.accepted ∧ ¬Abuses link event) ∨
      ∃ source data packet, event = .deliver source data ∧
        link.accept aead key source data = some packet ∧
        (∃ original ∈ link.sent, identity original = identity packet) ∧
        next.sent = link.sent ∧ next.accepted = link.accepted ++ [packet] := by
  have none : ∀ packet ∈ ([] : List Packet), packet.SealedUnder aead key :=
    nofun
  cases event with
  | send typ data random =>
    have ⟨⟨sized, _⟩, made⟩ := Option.ite_none_right_eq_some.mp stepped
    cases made
    refine .inl ⟨_, forall_mem_singleton.mpr ⟨?_, rfl⟩, rfl, rfl, id⟩
    rw [length_append, length_reverse, beBytes_length, sized]
  | reconnect | connected value =>
    cases stepped
    exact .inl ⟨[], none, (append_nil _).symm, rfl, id⟩
  | deliver source data =>
    have ⟨honest, made⟩ := Option.ite_none_left_eq_some.mp stepped
    cases made
    unfold handleP2PPacket
    cases read : link.accept aead key source data with
    | none =>
      refine .inl ⟨[], none, (append_nil _).symm, rfl, ?_⟩
      rintro ⟨connected, rfl, packet, sent, typ, known, rfl, _⟩
      cases read.symm.trans (sound.accept_retyped connected sent known)
    | some packet =>
      refine .inr ⟨source, data, packet, rfl, read, ?_, rfl, rfl⟩
      -- what is accepted opens, and what opens was sealed by the sender
      rw [forged, (accept_iff.mp read).2.2.1] at honest
      simpa [identity] using honest

theorem Sound.step (sound : Sound aead key link)
    (stepped : (machine aead key).step link event = some next) : Sound aead key next := by
  rcases step_effect sound stepped with ⟨fresh, made, sent, accepted, _⟩ |
    ⟨source, data, packet, _, read, ⟨original, listed, same⟩, sent, accepted⟩
  · constructor
    · rw [sent, forall_mem_append]
      exact ⟨sound.allSealed, made⟩
    · rw [sent, accepted]
      intro packet inAccepted
      have ⟨original, listed, same⟩ := sound.payloads packet inAccepted
      exact ⟨original, mem_append_left _ listed, same⟩
  · constructor
    · rw [sent]
      exact sound.allSealed
    · rw [sent, accepted, forall_mem_append, forall_mem_singleton]
      refine ⟨sound.payloads, original, listed, same, ?_⟩
      have ⟨_, opened⟩ := bytes_of_decrypt (accept_iff.mp read).2.2.1
      have ⟨nonce, ciphertext⟩ := Prod.mk.inj same
      rw [← nonce, ← ciphertext, (sound.allSealed original listed).ciphertext,
        aead.aeadOpen_aeadSeal] at opened
      exact Option.some.inj opened

theorem Intact.step (sound : Sound aead key link) (intact : Intact link)
    (stepped : (machine aead key).step link event = some next) :
    Intact next ↔ ¬Abuses link event := by
  rcases step_effect sound stepped with ⟨fresh, _, sent, accepted, fair⟩ |
    ⟨source, data, packet, rfl, read, ⟨original, listed, same⟩, sent, accepted⟩
  · refine iff_of_true ⟨fun packet listed => ?_, accepted ▸ intact.once⟩ fair
    have ⟨original, inSent, same⟩ := intact.sent packet (accepted ▸ listed)
    exact ⟨original, sent ▸ mem_append_left _ inSent, same⟩
  · have decides : Intact next ↔
        link.Sent packet ∧ identity packet ∉ link.accepted.map identity := by
      have sameSent : ∀ other, next.Sent other ↔ link.Sent other := fun other => by
        rw [Sent, Sent, sent]
      constructor
      · intro after
        have inSent := after.sent packet (accepted ▸ mem_append_right _ mem_cons_self)
        have once := after.once
        rw [accepted, map_append, nodup_append] at once
        exact ⟨(sameSent packet).mp inSent, fun again => once.2.2 _ again _ mem_cons_self rfl⟩
      · intro ⟨inSent, new⟩
        constructor
        · rw [accepted, forall_mem_append, forall_mem_singleton]
          exact ⟨fun other listed => (sameSent other).mpr (intact.sent other listed),
            (sameSent packet).mpr inSent⟩
        · rw [accepted, map_append, nodup_append]
          refine ⟨intact.once, nodup_singleton _, fun left listed right isNew same => ?_⟩
          rw [mem_singleton.mp isNew] at same
          exact new (same ▸ listed)
    rw [decides]
    constructor
    · rintro ⟨inSent, new⟩ ⟨connected, rfl, other, otherSent, typ, known, rfl, abuse⟩
      cases read.symm.trans (sound.accept_retyped connected otherSent known)
      exact abuse.elim (fun unsent => unsent inSent) new
    · intro fair
      by_contra bad
      have ⟨connected, fromSender, decrypted, known⟩ := accept_iff.mp read
      have ⟨bytes, opened⟩ := bytes_of_decrypt decrypted
      have ⟨nonce, ciphertext⟩ := Prod.mk.inj same
      refine fair ⟨connected, fromSender, original, listed, packet.typ, known, ?_, ?_⟩
      · rw [bytes, Packet.bytes, Packet.bytes, nonce, ciphertext]
      · rw [← nonce, ← ciphertext, (sound.allSealed original listed).ciphertext,
          aead.aeadOpen_aeadSeal] at opened
        have again : link.Sent { original with typ := packet.typ } ↔ link.Sent packet := by
          rw [Sent, Sent, Option.some.inj opened]
        rw [again, same]
        exact (not_and_or.mp bad).imp_right not_not.mp

theorem accepts_retyped (sound : Sound aead key link) (connected : link.connected = true)
    {packet : Packet} (sent : packet ∈ link.sent) {typ : UInt8} (known : typ ∈ packetTypes) :
    ∃ next, (machine aead key).step link
        (.deliver link.remoteAddr { packet with typ := typ }.bytes) = some next ∧
      next.accepted = link.accepted ++ [{ packet with typ := typ }] := by
  have decrypted := decrypt_retyped (sound.allSealed packet sent) typ
  have honest : link.forged aead key { packet with typ := typ }.bytes = false := by
    rw [forged, decrypted]
    simpa using ⟨packet, sent, rfl, rfl⟩
  refine ⟨link.handleP2PPacket aead key link.remoteAddr { packet with typ := typ }.bytes, ?_, ?_⟩
  · simp only [machine, step, honest, Bool.false_eq_true, if_false]
  · rw [handleP2PPacket, sound.accept_retyped connected sent known]

/-- Along a run everything accepted was sent with its type and payload and was accepted once,
exactly when the attacker never delivers, from the address of the peer to a receiver that is
connected, a packet with its type changed into one not sent with the payload or one that was
accepted before; both are open to it for every packet. -/
theorem packets_intact_iff (aead : AEAD) (key : List UInt8) (remoteAddr : GoString)
    (events : List LinkEvent) :
    ((machine aead key).Always Intact (initial remoteAddr) events ↔
      (machine aead key).Never Abuses (initial remoteAddr) events) ∧
    ∀ link, (machine aead key).run (initial remoteAddr) events = some link →
      (∀ packet ∈ link.accepted, ∃ original ∈ link.sent,
        identity original = identity packet ∧ original.payload = packet.payload) ∧
      (link.connected = true → ∀ packet ∈ link.sent, ∀ typ ∈ packetTypes,
        ∃ next, (machine aead key).step link
            (.deliver link.remoteAddr { packet with typ := typ }.bytes) = some next ∧
          next.accepted = link.accepted ++ [{ packet with typ := typ }]) := by
  have start : Sound aead key (initial remoteAddr) :=
    ⟨fun _ listed => (nomatch listed), fun _ listed => (nomatch listed)⟩
  constructor
  · exact Machine.always_iff_never (Sound aead key)
      (fun sound intact stepped => ⟨sound.step stepped, intact.step sound stepped⟩) events start
      ⟨fun _ listed => (nomatch listed), nodup_nil⟩
  · intro link ran
    have sound := Machine.run_invariant (Sound aead key)
      (fun sound stepped => sound.step stepped) events start ran
    exact ⟨sound.payloads, fun connected packet sent typ known =>
      accepts_retyped sound connected sent known⟩

/-- One data packet, delivered with the type of a packet that ends the connection. -/
theorem data_taken_for_close :
    ∃ data : List UInt8, ¬(machine AEAD.tagOnly []).Always Intact (initial (lit "1.2.3.4:5"))
      [.send p2pData (lit "hi") (List.replicate 16 0), .deliver (lit "1.2.3.4:5") data] := by
  refine ⟨lit "P2P1" ++ p2pClose :: (List.replicate 24 0 ++ (lit "hi" ++ List.replicate 16 0)),
    fun always => ?_⟩
  have intact := always _ [] _ (append_nil _).symm (rfl : _ = some _)
  have ⟨original, inSent, same, _⟩ := intact.sent _ mem_cons_self
  cases mem_singleton.mp inSent
  exact absurd same (by decide)

end Link

end Shuttle.P2P
