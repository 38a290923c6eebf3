import Shuttle.Lib.Machine
import Shuttle.Proxy.UDPWire

/-!
# SOCKS5 UDP associations

`proxy/socks5_udp.go` keeps one connection for each target of a client's datagrams and writes every
payload to it as a frame, whatever kind of connection the dialer returned. The goroutine that reads
the replies removes the connection when it ends; the relay at the server ends when no reply has come
for five seconds. Client datagrams are not fragmented and name a host that an address can be made
of.
-/

namespace Shuttle.Proxy

open Shuttle.Go Shuttle.Lib List

/-! ## Client datagrams -/

inductive HeaderError where
  /-- "data too short". -/
  | tooShort
  /-- "data too short for" a part, or "unsupported address type: %d". -/
  | badAddress (cause : AddressError)
deriving DecidableEq

def parseSOCKS5UDPHeader (data : List UInt8) : Except HeaderError (GoString × Nat) :=
  if data.length < 4 then .error .tooShort
  else
    match parseAddress (data.drop 3) with
    | .error cause => .error (.badAddress cause)
    | .ok (addr, stop) => .ok (addr, 3 + stop)

structure ClientDatagram where
  address : Address
  port : UInt16
  payload : List UInt8
  unbracketed : 0x5b ∉ address.host ∧ 0x5d ∉ address.host
  fits : 3 + (address.block port payload).length ≤ maxUDPPayload

namespace ClientDatagram

variable (datagram : ClientDatagram)

def encode : List UInt8 :=
  [0, 0, 0] ++ datagram.address.block datagram.port datagram.payload

def target : GoString :=
  joinHostPort datagram.address.host (formatDecimal datagram.port.toNat)

/-- The frame for its target has a body of seven bytes or more. -/
def Framed : Prop :=
  parseIP datagram.address.host = none →
    3 ≤ datagram.address.host.length + datagram.payload.length

instance : DecidablePred Framed := fun datagram =>
  inferInstanceAs (Decidable (parseIP datagram.address.host = none →
    3 ≤ datagram.address.host.length + datagram.payload.length))

variable (datagram : ClientDatagram)

theorem parse_encode :
    ¬datagram.encode.length < 4 ∧ datagram.encode.getD 2 0 = 0 ∧
      ∃ start, parseSOCKS5UDPHeader datagram.encode = .ok (datagram.target, start) ∧
        datagram.encode.drop start = datagram.payload := by
  have length := datagram.address.block_length datagram.port datagram.payload
  have long : ¬datagram.encode.length < 4 := by
    rw [encode, length_append]
    simp only [length_cons]
    omega
  refine ⟨long, rfl, 3 + (1 + datagram.address.encode.length + 2), ?_, ?_⟩
  · have behind : datagram.encode.drop 3 = datagram.address.block datagram.port datagram.payload :=
      rfl
    rw [parseSOCKS5UDPHeader, behind, parseAddress_block]
    rfl
  · rw [← drop_drop]
    exact datagram.address.block_drop datagram.port datagram.payload

theorem write_target (services : Services) :
    ∃ frame, writeUDPFrame services datagram.target datagram.payload = .ok frame ∧
      datagram.payload.length < frame.length ∧
      (datagram.Framed → ∀ tail, relayed (frame ++ tail) = datagram.payload :: relayed tail) ∧
      (¬datagram.Framed → relayed frame = []) := by
  have ⟨framed, found, named, literal⟩ :=
    @frameAddress_spec datagram.address.host fun name => (Address.host_name name).1
  have fits := datagram.fits
  rw [datagram.address.block_length, maxUDPPayload] at fits
  have length := framed.block_length datagram.port datagram.payload
  have split := splitHostPort_joinHostPort datagram.unbracketed datagram.port.toNat
  have small : ¬maxUDPPayload < datagram.payload.length := by
    rw [maxUDPPayload]
    omega
  have short : (framed.block datagram.port datagram.payload).length < 2 ^ 16 := by
    by_cases name : parseIP datagram.address.host = none
    · have sizes := (Address.host_name name).2
      have size := named name
      omega
    · have size := literal name
      omega
  have enough : datagram.Framed ↔ 7 ≤ (framed.block datagram.port datagram.payload).length := by
    by_cases name : parseIP datagram.address.host = none
    · have size := named name
      constructor
      · intro framed
        have sum := framed name
        omega
      · intro body _
        omega
    · have size := literal name
      exact iff_of_true (fun none => absurd none name) (by omega)
  refine ⟨udpFrame (framed.block datagram.port datagram.payload), ?_, ?_, ?_, ?_⟩
  · rw [writeUDPFrame, if_neg small, target, split]
    dsimp only
    rw [services.numeric]
    rw [found]
  · rw [udpFrame, length_append]
    omega
  · intro body
    exact relayed_frame framed datagram.port datagram.payload (enough.mp body) short
  · intro body
    have few : (framed.block datagram.port datagram.payload).length < 7 := by
      by_contra many
      exact body (enough.mpr (by omega))
    have ended := relayed_short few []
    rw [append_nil] at ended
    exact ended

end ClientDatagram

/-! ## The association -/

/-- An association: the connection of each target by its number, and the connections. -/
structure Association where
  streams : GoMap GoString Nat
  wire : Wire GoString

inductive AssociationEvent where
  | datagram (datagram : ClientDatagram) (dialed : Option Link)
  | relayEnded (stream : Nat)
  | ended (target : GoString)

namespace Association

def new : Association := ⟨GoMap.empty, Wire.empty⟩

variable (association : Association)

/-- The stream of a target, dialed when there is none; none when the dial fails. -/
def openStream (target : GoString) (dialed : Option Link) : Option (Nat × Association) :=
  match association.streams target with
  | some stream => some (stream, association)
  | none =>
    match dialed with
    | none => none
    | some link =>
      let stream := association.wire.conns.length
      some (stream, ⟨association.streams.set target stream, association.wire.dial link⟩)

def handleDatagram (services : Services) (association : Association) (dialed : Option Link)
    (data : List UInt8) : Association :=
  if data.length < 4 then association
  else if data.getD 2 0 ≠ 0 then association
  else
    match parseSOCKS5UDPHeader data with
    | .error _ => association
    | .ok (target, headerLen) =>
      match association.openStream target dialed with
      | none => association
      | some (stream, opened) =>
        match writeUDPFrame services target (data.drop headerLen) with
        | .error _ => opened
        | .ok frame => { opened with wire := opened.wire.write target stream frame }

/-- An association takes the datagrams of its client and the ends of its streams, first at the
server and then here. -/
def machine (services : Services) : Machine Association AssociationEvent where
  step association
    | .datagram datagram dialed =>
      let sent :=
        { association with wire := association.wire.send datagram.target datagram.payload }
      some (sent.handleDatagram services dialed datagram.encode)
    | .relayEnded stream =>
      if association.wire.conns[stream]?.any fun conn => conn.link = .proxied then
        some { association with wire := association.wire.close stream }
      else none
    | .ended target =>
      match association.streams target with
      | none => none
      | some stream =>
        some ⟨association.streams.delete target, association.wire.close stream⟩

def Intact : Prop :=
  ∀ target, ofFlow target association.wire.reached = ofFlow target association.wire.sent

def connFor (target : GoString) (dialed : Option Link) : Option UDPConn :=
  match association.streams target with
  | some stream => association.wire.conns[stream]?
  | none => dialed.map UDPConn.dialed

/-- A datagram is spoiled: there is no connection for it, or one whose relay has ended, or a socket,
or its frame is too short for the relay. -/
def Spoils : AssociationEvent → Prop
  | .datagram datagram dialed =>
    match association.connFor datagram.target dialed with
    | none => True
    | some conn => conn.closed = true ∨ conn.link = .direct ∨ ¬datagram.Framed
  | .relayEnded _ | .ended _ => False

/-- Every stream has a connection with nothing but whole frames on it. -/
def Sound : Prop :=
  ∀ target stream, association.streams target = some stream →
    ∃ conn, association.wire.conns[stream]? = some conn ∧ conn.Whole

variable {services : Services} {association next : Association} {datagram : ClientDatagram}
  {dialed : Option Link}

theorem handleDatagram_encode {frame : List UInt8} {stream : Nat} {opened : Association}
    (written : writeUDPFrame services datagram.target datagram.payload = .ok frame)
    (found : association.openStream datagram.target dialed = some (stream, opened)) :
    association.handleDatagram services dialed datagram.encode =
      { opened with wire := opened.wire.write datagram.target stream frame } := by
  have ⟨long, whole, start, parsed, behind⟩ := datagram.parse_encode
  rw [handleDatagram, if_neg long, if_neg (not_not.mpr whole), parsed]
  dsimp only
  rw [behind, found]
  rw [written]

theorem handleDatagram_unopened (refused : association.openStream datagram.target dialed = none) :
    association.handleDatagram services dialed datagram.encode = association := by
  have ⟨long, whole, start, parsed, _⟩ := datagram.parse_encode
  rw [handleDatagram, if_neg long, if_neg (not_not.mpr whole), parsed]
  dsimp only
  rw [refused]

section

variable (sound : association.Sound)

include sound

theorem Sound.openStream (target : GoString) (dialed : Option Link) :
    (association.openStream target dialed = none ∧ association.connFor target dialed = none) ∨
    ∃ stream opened conn, association.openStream target dialed = some (stream, opened) ∧
      association.connFor target dialed = some conn ∧ opened.Sound ∧
      opened.wire.conns[stream]? = some conn ∧ conn.Whole ∧
      opened.wire.sent = association.wire.sent ∧
        opened.wire.reached = association.wire.reached := by
  unfold Association.openStream connFor
  cases known : association.streams target with
  | some stream =>
    have ⟨conn, held, whole⟩ := sound target stream known
    exact .inr ⟨stream, association, conn, rfl, held, sound, held, whole, rfl, rfl⟩
  | none =>
    cases dialed with
    | none => exact .inl ⟨rfl, rfl⟩
    | some link =>
      have last :
          (association.wire.conns ++ [UDPConn.dialed link])[association.wire.conns.length]? =
          some (UDPConn.dialed link) := List.getElem?_concat_length
      have fresh : (UDPConn.dialed link).Whole := UDPConn.whole_of_received_nil rfl
      refine .inr ⟨_, _, UDPConn.dialed link, rfl, rfl, ?_, last, fresh, rfl, rfl⟩
      intro other stream found
      rcases GoMap.set_eq_some_iff.mp found with ⟨_, newest⟩ | ⟨_, earlier⟩
      · rw [← newest]
        exact ⟨_, last, fresh⟩
      · have ⟨conn, held, whole⟩ := sound other stream earlier
        have below := (List.getElem?_eq_some_iff.mp held).1
        exact ⟨conn, (List.getElem?_append_left below).trans held, whole⟩

theorem Sound.write {target : GoString} {stream : Nat} {conn : UDPConn}
    (held : association.wire.conns[stream]? = some conn) (whole : conn.Whole) {frame : List UInt8}
    (framed : ∀ tail, relayed (frame ++ tail) = relayed frame ++ relayed tail) :
    Sound { association with wire := association.wire.write target stream frame } := by
  have inside := (List.getElem?_eq_some_iff.mp held).1
  intro other number found
  rw [Wire.write, held]
  by_cases same : stream = number
  · rw [← same, List.getElem?_set_self inside]
    exact ⟨_, rfl, whole.write framed⟩
  · rw [List.getElem?_set_ne same]
    exact sound other number found

theorem Sound.close (stream : Nat) :
    Sound { association with wire := association.wire.close stream } := by
  intro target number found
  have ⟨conn, held, whole⟩ := sound target number found
  rw [Wire.close, List.getElem?_modify, held]
  split <;> exact ⟨_, rfl, whole⟩

theorem Sound.stepDatagram
    (stepped : (machine services).step association (.datagram datagram dialed) = some next) :
    ∃ arrived : List (List UInt8),
      next.wire.sent = association.wire.sent ++
        [datagram.payload].map (fun payload => (datagram.target, payload)) ∧
      next.wire.reached = association.wire.reached ++
        arrived.map (fun payload => (datagram.target, payload)) ∧
      (arrived = [datagram.payload] ↔ ¬association.Spoils (.datagram datagram dialed)) ∧
      (¬association.Spoils (.datagram datagram dialed) → next.Sound) := by
  have ⟨frame, written, longer, framed, short⟩ := datagram.write_target services
  have sent : Sound { association with
      wire := association.wire.send datagram.target datagram.payload } := sound
  have result := Option.some.inj stepped
  rw [← result, Spoils]
  rcases sent.openStream datagram.target dialed with
    ⟨refused, none⟩ | ⟨stream, opened, conn, found, used, ready, held, whole, same, arrived⟩
  · have none : association.connFor datagram.target dialed = Option.none := none
    rw [handleDatagram_unopened refused, none]
    refine ⟨[], rfl, (append_nil _).symm, ?_, fun spared => absurd trivial spared⟩
    exact iff_of_false (nofun) (not_not.mpr trivial)
  · have used : association.connFor datagram.target dialed = some conn := used
    have ⟨unsent, log⟩ := opened.wire.write_log datagram.target stream frame
    rw [handleDatagram_encode written found, used]
    refine ⟨conn.reaches frame, unsent.trans same, ?_, ?_, ?_⟩
    · rw [log, Wire.brings_some held, arrived]
      rfl
    · cases closed : conn.closed with
      | true =>
        rw [UDPConn.reaches_closed closed]
        exact iff_of_false (nofun) (not_not.mpr (.inl closed))
      | false =>
        cases link : conn.link with
        | direct =>
          rw [UDPConn.reaches_direct closed link]
          refine iff_of_false (fun equal => ?_) (not_not.mpr (.inr (.inl link)))
          rw [(List.cons.inj equal).1] at longer
          exact absurd longer (Nat.lt_irrefl _)
        | proxied =>
          rw [UDPConn.reaches_proxied closed link whole]
          by_cases body : datagram.Framed
          · have only := framed body []
            rw [append_nil] at only
            refine iff_of_true only ?_
            dsimp only
            rw [closed, link]
            exact not_or.mpr ⟨nofun, not_or.mpr ⟨nofun, not_not.mpr body⟩⟩
          · rw [short body]
            exact iff_of_false (nofun) (not_not.mpr (.inr (.inr body)))
    · intro spared
      have body : datagram.Framed := not_not.mp (not_or.mp (not_or.mp spared).2).2
      have only := framed body []
      rw [append_nil] at only
      apply ready.write held whole
      intro tail
      rw [framed body, only]
      rfl

theorem Sound.stepEnded {stream : Nat} {target : GoString}
    (stepped : (machine services).step association (.relayEnded stream) = some next ∨
      (machine services).step association (.ended target) = some next) :
    next.Sound ∧ next.wire.sent = association.wire.sent ∧
      next.wire.reached = association.wire.reached := by
  rcases stepped with stepped | stepped <;> dsimp only [machine] at stepped
  · split at stepped <;> cases stepped
    exact ⟨sound.close stream, rfl, rfl⟩
  · split at stepped <;> cases stepped
    rename_i number _
    refine ⟨fun other count found => ?_, rfl, rfl⟩
    exact sound.close number other count (GoMap.delete_eq_some_iff.mp found).2

end

theorem always_intact_iff (services : Services) (events : List AssociationEvent) :
    (machine services).Always Intact new events ↔ (machine services).Never Spoils new events := by
  have balance {association : Association} (intact : association.Intact) (target : GoString) :
      ofFlow target association.wire.reached ++ [] = ofFlow target association.wire.sent := by
    rw [append_nil]
    exact intact target
  apply Machine.always_iff_never_of Sound
  · intro association next event sound intact stepped spared
    cases event with
    | datagram datagram dialed =>
      have ⟨arrived, sent, reached, only, kept⟩ := sound.stepDatagram stepped
      have balanced := (balanced_iff datagram.target (balance intact) (fun _ _ => rfl)
        [datagram.payload] arrived).mpr (by rw [only.mpr spared]; rfl)
      refine ⟨kept spared, fun target => ?_⟩
      rw [sent, reached, ← append_nil (ofFlow target (association.wire.reached ++ _))]
      exact balanced target
    | relayEnded stream =>
      have ⟨kept, sent, reached⟩ := @Sound.stepEnded _ _ _ sound stream [] (.inl stepped)
      refine ⟨kept, fun other => ?_⟩
      rw [sent, reached]
      exact intact other
    | ended target =>
      have ⟨kept, sent, reached⟩ := @Sound.stepEnded _ _ _ sound 0 target (.inr stepped)
      refine ⟨kept, fun other => ?_⟩
      rw [sent, reached]
      exact intact other
  · intro association next event sound intact stepped spoiled
    cases event with
    | datagram datagram dialed =>
      have ⟨arrived, sent, reached, only, _⟩ := sound.stepDatagram stepped
      intro nextIntact
      have balanced := (balanced_iff datagram.target (balance intact) (fun _ _ => rfl)
        [datagram.payload] arrived).mp
          (fun other => by rw [← sent, ← reached]; exact balance nextIntact other)
      rw [append_nil] at balanced
      exact only.mp balanced spoiled
    | relayEnded stream | ended target => exact absurd spoiled id
  · intro target stream found
    cases found
  · intro target
    rfl

end Association

/-! ## Lifetime

`handleConn` gives the control connection a deadline for the handshake, which it clears for a
CONNECT request only. A goroutine of `handleUDPAssociate` reads from the connection until an error
and then closes `tcpClosed`, which the relay loop asks about before each read of a datagram. -/

inductive ConnStage where
  | handshake
  /-- There is no association: the handshake has failed, or the request was CONNECT. -/
  | other
  | selecting
  | receiving
  | ended
  deriving DecidableEq

/-- A SOCKS5 connection; times are in nanoseconds since it was accepted. -/
structure ControlConn where
  now : Nat
  deadline : Option Nat
  stage : ConnStage
  clientGone : Bool
  ctxDone : Bool
  udpFailed : Bool
  tcpClosed : Bool

inductive ControlEvent where
  | elapse (time : Nat)
  | handshakeFails
  | connect
  | associate
  | clientLeaves
  | cancel
  | udpFails
  | read (data : Bool)
  | select
  | receive

namespace ControlConn

def accepted : ControlConn where
  now := 0
  deadline := some (30 * 10 ^ 9)
  stage := .handshake
  clientGone := false
  ctxDone := false
  udpFailed := false
  tcpClosed := false

variable (conn : ControlConn)

/-- A deadline that was set has passed, so that every `Read` times out. -/
def expired : Bool := conn.deadline.any (· ≤ conn.now)

def step : ControlEvent → Option ControlConn
  | .elapse time => some { conn with now := conn.now + time }
  | .handshakeFails =>
    if conn.stage = .handshake then some { conn with stage := .other } else none
  | .connect =>
    if conn.stage = .handshake ∧ ¬conn.expired then
      some { conn with stage := .other, deadline := none }
    else none
  | .associate =>
    if conn.stage = .handshake ∧ ¬conn.expired then some { conn with stage := .selecting } else none
  | .clientLeaves => some { conn with clientGone := true }
  | .cancel => some { conn with ctxDone := true }
  | .udpFails => some { conn with udpFailed := true }
  | .read data =>
    if (conn.stage = .selecting ∨ conn.stage = .receiving) ∧ ¬conn.tcpClosed then
      if data then if conn.expired then none else some conn
      else if conn.expired ∨ conn.clientGone then some { conn with tcpClosed := true }
      else none
    else none
  | .select =>
    if conn.stage = .selecting then
      some { conn with
        stage := if conn.tcpClosed ∨ conn.ctxDone then .ended else .receiving }
    else none
  | .receive =>
    if conn.stage = .receiving then
      some { conn with stage := if conn.udpFailed then .ended else .selecting }
    else none

def machine : Machine ControlConn ControlEvent := ⟨step⟩

def MayEnd : Prop := conn.clientGone ∨ conn.ctxDone ∨ conn.udpFailed

def EndsRightly : Prop := conn.stage = .ended → conn.MayEnd

/-- The loop finds `tcpClosed` closed only because the handshake's thirty seconds are over. -/
def TimesOut (event : ControlEvent) : Prop :=
  event = .select ∧ conn.tcpClosed = true ∧ 30 * 10 ^ 9 ≤ conn.now ∧ ¬conn.MayEnd

/-- The deadline is the one of the handshake unless the request was CONNECT, and the goroutine has
met an error for one of two reasons. -/
structure Guarded : Prop where
  deadline : conn.deadline = some (30 * 10 ^ 9) ∨ conn.stage = .other
  closed : conn.tcpClosed = true → conn.clientGone = true ∨ 30 * 10 ^ 9 ≤ conn.now

variable {conn} {next : ControlConn} {event : ControlEvent}

theorem Guarded.step (guarded : conn.Guarded) (stepped : conn.step event = some next) :
    next.Guarded := by
  have ⟨deadline, closed⟩ := guarded
  cases event <;> constructor <;> grind [ControlConn.step, expired]

theorem Guarded.endsRightly_iff (guarded : conn.Guarded) (rightly : conn.EndsRightly)
    (stepped : conn.step event = some next) : next.EndsRightly ↔ ¬conn.TimesOut event := by
  have ⟨_, closed⟩ := guarded
  cases event <;> grind [ControlConn.step, EndsRightly, TimesOut, MayEnd]

/-- In every run of a SOCKS5 connection its association ends only for one of the three reasons
exactly when the loop never finds the control connection timed out. -/
theorem association_ends_rightly_iff (events : List ControlEvent) :
    machine.Always EndsRightly accepted events ↔ machine.Never TimesOut accepted events := by
  exact Machine.always_iff_never Guarded
    (fun guarded rightly stepped =>
      ⟨guarded.step stepped, guarded.endsRightly_iff rightly stepped⟩)
    events ⟨.inl rfl, nofun⟩ nofun

/-- A client that stays connected and idle for half a minute loses its association. -/
theorem idle_association_ends :
    let events := [.associate, .select, .elapse (30 * 10 ^ 9), .read false, .receive, .select]
    ((machine.run accepted events).map fun conn => (conn.stage, conn.clientGone, conn.ctxDone,
      conn.udpFailed)) = some (.ended, false, false, false) ∧
      ¬machine.Always EndsRightly accepted events := by
  refine ⟨rfl, fun always => ?_⟩
  have rightly := always _ [] _ (append_nil _).symm rfl rfl
  simp [MayEnd, accepted] at rightly

end ControlConn

end Shuttle.Proxy
