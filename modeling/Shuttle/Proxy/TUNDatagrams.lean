import Shuttle.Lib.Lists
import Shuttle.Proxy.TUN
import Shuttle.Proxy.UDPAssociate

/-!
# Datagrams through the TUN inbound

The payload of a UDP packet is written to the connection of its flow with no frame around it. A
socket sends it as one datagram; the relay behind a proxy stream reads it as a frame, so the payload
never arrives. Until the dial of a flow has completed its datagram is outstanding, and what is
written then is what the read buffer holds by that time.
-/

namespace Shuttle.Proxy

open Shuttle.Go Shuttle.Lib List

/-! ## Unframed writes -/

namespace Wire

variable {κ : Type} {wire : Wire κ} {index : Nat} {bytes : List UInt8}

def OpenSocket (wire : Wire κ) (index : Nat) : Prop :=
  ∃ conn, wire.conns[index]? = some conn ∧ conn.link = .direct ∧ conn.closed = false

def Unframed (wire : Wire κ) : Prop :=
  ∀ (index : Nat) (conn : UDPConn), wire.conns[index]? = some conn → conn.link = .proxied →
    conn.received = []

section

variable (unframed : wire.Unframed)

include unframed

theorem Unframed.brings_iff {rest total : List (List UInt8)}
    (count : total.length = rest.length + 1)
    (size : rest.flatten.length + bytes.length ≤ total.flatten.length) :
    wire.brings index bytes ++ rest = total ↔ wire.OpenSocket index ∧ bytes :: rest = total := by
  have missing (nothing : wire.brings index bytes = []) :
      wire.brings index bytes ++ rest ≠ total := by
    intro same
    rw [nothing, nil_append] at same
    rw [same] at count
    omega
  cases found : wire.conns[index]? with
  | none =>
    refine iff_of_false (missing (brings_none found)) fun both => ?_
    have ⟨conn, held, _⟩ := both.1
    rw [found] at held
    cases held
  | some conn =>
    have brought : wire.brings index bytes = conn.reaches bytes := brings_some found
    have only {other : UDPConn} (held : wire.conns[index]? = some other) : conn = other := by
      rw [found] at held
      exact Option.some.inj held
    cases closed : conn.closed with
    | true =>
      refine iff_of_false (missing (brought.trans (UDPConn.reaches_closed closed))) fun both => ?_
      have ⟨other, held, _, opened⟩ := both.1
      rw [← only held, closed] at opened
      cases opened
    | false =>
      cases link : conn.link with
      | direct =>
        rw [brought, UDPConn.reaches_direct closed link]
        exact (and_iff_right ⟨conn, found, link, closed⟩).symm
      | proxied =>
        have whole := UDPConn.whole_of_received_nil (unframed index conn found link)
        rw [brought, UDPConn.reaches_proxied closed link whole]
        have bound := relayed_length bytes
        refine iff_of_false (fun same => ?_) fun both => ?_
        · have counts := congrArg List.length same
          have sizes := congrArg (fun list => list.flatten.length) same
          rw [flatten_append, length_append] at sizes
          rw [length_append] at counts
          omega
        · have ⟨other, held, direct, _⟩ := both.1
          rw [← only held, link] at direct
          cases direct

theorem Unframed.write {flow : κ} (socket : wire.OpenSocket index) :
    (wire.write flow index bytes).Unframed := by
  have ⟨conn, found, direct, _⟩ := socket
  have inside := (List.getElem?_eq_some_iff.mp found).1
  rw [Wire.write, found]
  intro number other held proxied
  by_cases same : index = number
  · rw [← same, List.getElem?_set_self inside] at held
    rw [← Option.some.inj held, UDPConn.write_frame.1, direct] at proxied
    cases proxied
  · rw [List.getElem?_set_ne same] at held
    exact unframed number other held proxied

theorem Unframed.dial (link : Link) : (wire.dial link).Unframed := by
  intro number conn held proxied
  rcases getElem?_append_cases held with ⟨_, rfl⟩ | ⟨_, older⟩
  · rfl
  · exact unframed number conn older proxied

theorem Unframed.shut {next : Wire κ}
    (shut : ∀ number : Nat, next.conns[number]? = wire.conns[number]? ∨
      next.conns[number]? = wire.conns[number]?.map fun conn => { conn with closed := true }) :
    next.Unframed := by
  intro number conn held proxied
  rcases shut number with same | closed
  · rw [same] at held
    exact unframed number conn held proxied
  · rw [closed] at held
    have ⟨before, found, result⟩ := Option.map_eq_some_iff.mp held
    rw [← result] at proxied ⊢
    exact unframed number before found proxied

end

end Wire

/-! ## Outstanding datagrams -/

def waiting (pending : List PendingUDP) (key : NatKey) : List (List UInt8) :=
  ofFlow key (pending.map fun each => (each.key, each.payload))

theorem waiting_append (pending : List PendingUDP) (last : PendingUDP) :
    waiting (pending ++ [last]) last.key = waiting pending last.key ++ [last.payload] ∧
      ∀ other, other ≠ last.key → waiting (pending ++ [last]) other = waiting pending other := by
  have split (key : NatKey) : waiting (pending ++ [last]) key =
      waiting pending key ++
        ofFlow key ([last.payload].map fun payload => (last.key, payload)) := by
    rw [waiting, map_append, ofFlow_append]
    rfl
  constructor
  · rw [split, ofFlow_same]
  · intro other apart
    rw [split, ofFlow_other apart.symm, append_nil]

theorem waiting_eraseIdx {pending : List PendingUDP} {index : Nat} {gone : PendingUDP}
    (found : pending[index]? = some gone) :
    (∃ before after, waiting pending gone.key = before ++ gone.payload :: after ∧
      waiting (pending.eraseIdx index) gone.key = before ++ after) ∧
    ∀ other, other ≠ gone.key → waiting (pending.eraseIdx index) other = waiting pending other := by
  have ⟨inside, here⟩ := List.getElem?_eq_some_iff.mp found
  have whole : pending = pending.take index ++ [gone] ++ pending.drop (index + 1) := by
    rw [append_assoc, singleton_append, ← here, ← drop_eq_getElem_cons inside, take_append_drop]
  have erased : pending.eraseIdx index = pending.take index ++ pending.drop (index + 1) :=
    eraseIdx_eq_take_drop_succ pending index
  have split (front back : List PendingUDP) (key : NatKey) :
      waiting (front ++ back) key = waiting front key ++ waiting back key := by
    rw [waiting, map_append, ofFlow_append]
    rfl
  have ⟨own, elsewhere⟩ := waiting_append (pending.take index) gone
  constructor
  · refine ⟨waiting (pending.take index) gone.key, waiting (pending.drop (index + 1)) gone.key,
      ?_, ?_⟩
    · conv => lhs; rw [whole]
      rw [split, own, append_assoc]
      rfl
    · rw [erased, split]
  · intro other apart
    conv => rhs; rw [whole]
    rw [erased, split, split, elsewhere other apart]

theorem waiting_set {pending : List PendingUDP} {index : Nat} {before : PendingUDP}
    (found : pending[index]? = some before) (conn : Option Nat) :
    waiting (pending.set index { before with conn := conn }) = waiting pending := by
  have ⟨inside, here⟩ := List.getElem?_eq_some_iff.mp found
  have same : (pending.set index { before with conn := conn }).map
      (fun each => (each.key, each.payload)) =
        pending.map fun each => (each.key, each.payload) := by
    rw [map_set, ← here]
    apply ext_getElem?
    intro number
    rw [List.getElem?_set]
    split
    · rename_i equal
      rw [← equal, if_pos (by rw [length_map]; exact inside), List.getElem?_map,
        List.getElem?_eq_getElem inside]
      rfl
    · rfl
  funext key
  rw [waiting, same, waiting]

namespace TUNServer

/-- What reached each target, with what is outstanding for it behind, is what was sent to it. -/
def Intact (server : TUNServer) : Prop :=
  ∀ key, ofFlow key server.wire.reached ++ waiting server.pendingUDP key =
    ofFlow key server.wire.sent

/-- A datagram is spoiled: unless its flow's connection is an open socket and it is like all that
are outstanding, or, without a connection, unless it is dialed as an open socket and the read buffer
still has it when it is written. -/
def Spoils (config : TUNConfig) (server : TUNServer) : TUNEvent → Prop
  | .packet bytes _ =>
    match ingress config (config.readable bytes) with
    | .udp srcIP dstIP _ udpData =>
      server.closed = false ∧ 8 ≤ udpData.length ∧
        ∃ entry, server.udp (natKey srcIP dstIP udpData) = some entry ∧
          ¬(server.wire.OpenSocket entry.conn ∧
            udpData.drop 8 :: waiting server.pendingUDP (natKey srcIP dstIP udpData) =
              waiting server.pendingUDP (natKey srcIP dstIP udpData) ++ [udpData.drop 8])
    | _ => False
  | .udpDialed _ none => True
  | .udpWritten index =>
    ∃ pending conn, server.pendingUDP[index]? = some pending ∧ pending.conn = some conn ∧
      ¬(server.wire.OpenSocket conn ∧
        server.slice pending :: waiting (server.pendingUDP.eraseIdx index) pending.key =
          waiting server.pendingUDP pending.key)
  | _ => False

structure Unspoiled (server : TUNServer) : Prop where
  unframed : server.wire.Unframed
  lengths : ∀ pending ∈ server.pendingUDP, pending.length = pending.payload.length

/-- Some datagrams of one flow are sent and some arrive, and their balance is kept exactly when the
condition holds; then nothing is spoiled. -/
structure Moves (server next : TUNServer) (condition : Prop) : Prop where
  effect : ∃ (flow : NatKey) (new arrived : List (List UInt8)),
    next.wire.sent = server.wire.sent ++ new.map (fun datagram => (flow, datagram)) ∧
    next.wire.reached = server.wire.reached ++ arrived.map (fun datagram => (flow, datagram)) ∧
    (∀ other, other ≠ flow → waiting next.pendingUDP other = waiting server.pendingUDP other) ∧
    (arrived ++ waiting next.pendingUDP flow = waiting server.pendingUDP flow ++ new ↔ condition)
  unspoiled : condition → next.Unspoiled

variable {config : TUNConfig} {server next : TUNServer} {event : TUNEvent} {condition : Prop}

theorem Unspoiled.moves (next : TUNServer) (unspoiled : next.Unspoiled)
    (sent : next.wire.sent = server.wire.sent) (reached : next.wire.reached = server.wire.reached)
    (waits : ∀ key, waiting next.pendingUDP key = waiting server.pendingUDP key)
    (holds : condition) : Moves server next condition := by
  refine ⟨⟨⟨.zero, .zero, 0, 0⟩, [], [], ?_, ?_, fun _ _ => waits _, ?_⟩, fun _ => unspoiled⟩
  · rw [sent, map_nil, append_nil]
  · rw [reached, map_nil, append_nil]
  · rw [waits, append_nil]
    exact iff_of_true rfl holds

theorem Unspoiled.kept (unspoiled : server.Unspoiled) (wire : next.wire = server.wire)
    (pending : next.pendingUDP = server.pendingUDP) (holds : condition) :
    Moves server next condition := by
  refine Unspoiled.moves next ⟨?_, ?_⟩ ?_ ?_ (fun key => ?_) holds
  · rw [wire]
    exact unspoiled.unframed
  · rw [pending]
    exact unspoiled.lengths
  · rw [wire]
  · rw [wire]
  · rw [pending]

theorem tcpSteps_frame {index : Nat} {succeeded : Bool}
    (stepped : server.tcpDialed index succeeded = some next ∨ server.tcpEnded index = some next) :
    next.wire = server.wire ∧ next.pendingUDP = server.pendingUDP := by
  rcases stepped with stepped | stepped
  · rw [tcpDialed] at stepped
    split at stepped
    · cases stepped
    · split at stepped <;> cases stepped <;> exact ⟨rfl, rfl⟩
  · rw [tcpEnded] at stepped
    split at stepped <;> cases stepped
    exact ⟨rfl, rfl⟩

theorem Moves.congr {other : Prop} (moves : Moves server next condition)
    (same : condition ↔ other) : Moves server next other := by
  rw [← same]
  exact moves

section

variable (unspoiled : server.Unspoiled)

include unspoiled

theorem Unspoiled.writes {wire : Wire NatKey} {flow : NatKey}
    {conn : Nat} {bytes : List UInt8} {new : List (List UInt8)}
    (conns : wire.conns = server.wire.conns)
    (sent : wire.sent = server.wire.sent ++ new.map fun datagram => (flow, datagram))
    (reached : wire.reached = server.wire.reached)
    (written : next.wire = wire.write flow conn bytes)
    (elsewhere : ∀ other, other ≠ flow →
      waiting next.pendingUDP other = waiting server.pendingUDP other)
    (lengths : ∀ pending ∈ next.pendingUDP, pending.length = pending.payload.length)
    (count : (waiting server.pendingUDP flow ++ new).length =
      (waiting next.pendingUDP flow).length + 1)
    (size : (waiting next.pendingUDP flow).flatten.length + bytes.length ≤
      (waiting server.pendingUDP flow ++ new).flatten.length) :
    Moves server next (server.wire.OpenSocket conn ∧
      bytes :: waiting next.pendingUDP flow = waiting server.pendingUDP flow ++ new) := by
  have unframed : wire.Unframed := by
    intro number other held
    rw [conns] at held
    exact unspoiled.unframed number other held
  have socket : wire.OpenSocket conn ↔ server.wire.OpenSocket conn := by
    rw [Wire.OpenSocket, conns, Wire.OpenSocket]
  have log := wire.write_log flow conn bytes
  have fits := @Wire.Unframed.brings_iff _ wire conn bytes unframed _ _ count size
  rw [socket] at fits
  refine ⟨⟨flow, new, wire.brings conn bytes, ?_, ?_, elsewhere, fits⟩, fun both => ⟨?_, lengths⟩⟩
  · rw [written, log.1, sent]
  · rw [written, log.2, reached]
  · rw [written]
    exact unframed.write (socket.mpr both.1)

theorem Unspoiled.handleUDP (srcIP dstIP : Addr) (start : Nat) (udpData : List UInt8) :
    Moves server (server.handleUDP srcIP dstIP start udpData)
      (¬(8 ≤ udpData.length ∧ ∃ entry, server.udp (natKey srcIP dstIP udpData) = some entry ∧
        ¬(server.wire.OpenSocket entry.conn ∧
          udpData.drop 8 :: waiting server.pendingUDP (natKey srcIP dstIP udpData) =
            waiting server.pendingUDP (natKey srcIP dstIP udpData) ++ [udpData.drop 8]))) := by
  unfold TUNServer.handleUDP
  by_cases short : udpData.length < 8
  · rw [if_pos short]
    exact unspoiled.kept rfl rfl fun both => by omega
  · have long : 8 ≤ udpData.length := by omega
    rw [if_neg short, and_iff_right long]
    dsimp only
    cases found : server.udp (natKey srcIP dstIP udpData) with
    | some entry =>
      have writes := @Unspoiled.writes server { server with
          udp := touch server.udp (natKey srcIP dstIP udpData) server.now
          wire := (server.wire.send (natKey srcIP dstIP udpData) (udpData.drop 8)).write
            (natKey srcIP dstIP udpData) entry.conn (udpData.drop 8) } unspoiled
        (server.wire.send (natKey srcIP dstIP udpData) (udpData.drop 8))
        (natKey srcIP dstIP udpData) entry.conn (udpData.drop 8) [udpData.drop 8] rfl rfl rfl rfl
        (fun _ _ => rfl) unspoiled.lengths length_append (by
          rw [flatten_append, length_append, flatten_singleton])
      refine writes.congr ⟨?_, fun unspoilt => ?_⟩
      · intro both ⟨other, same, spoilt⟩
        rw [← Option.some.inj same] at spoilt
        exact spoilt both
      · by_contra spoilt
        exact unspoilt ⟨entry, rfl, spoilt⟩
    | none =>
      have ⟨own, elsewhere⟩ := waiting_append server.pendingUDP ⟨natKey srcIP dstIP udpData,
        start + 8, (udpData.drop 8).length, udpData.drop 8, none⟩
      refine ⟨⟨natKey srcIP dstIP udpData, [udpData.drop 8], [], rfl, (append_nil _).symm,
        elsewhere, iff_of_true own fun ⟨_, same, _⟩ => nomatch same⟩,
        fun _ => ⟨unspoiled.unframed, ?_⟩⟩
      intro pending member
      rcases mem_append.mp member with earlier | last
      · exact unspoiled.lengths pending earlier
      · rw [mem_singleton.mp last]

theorem Unspoiled.udpDialed {index : Nat} {link : Option Link}
    (stepped : server.udpDialed index link = some next) :
    Moves server next (¬Spoils config server (.udpDialed index link)) := by
  rw [TUNServer.udpDialed] at stepped
  cases found : server.pendingUDP[index]? with
  | none =>
    rw [found] at stepped
    cases stepped
  | some pending =>
    rw [found] at stepped
    dsimp only at stepped
    split at stepped
    · cases stepped
    have known := mem_of_getElem? found
    cases link with
    | none =>
      cases stepped
      have ⟨⟨before, after, whole, erased⟩, elsewhere⟩ := waiting_eraseIdx found
      refine ⟨⟨pending.key, [], [], (append_nil _).symm, (append_nil _).symm, elsewhere,
        iff_of_false (fun same => ?_) (not_not.mpr trivial)⟩, fun kept => absurd trivial kept⟩
      have counts := congrArg List.length same
      rw [erased, whole] at counts
      simp only [length_append, length_cons] at counts
      omega
    | some link =>
      cases stepped
      refine Unspoiled.moves _ ⟨unspoiled.unframed.dial link, fun each member => ?_⟩ rfl rfl
        (fun key => ?_) id
      · rcases mem_or_eq_of_mem_set member with earlier | same
        · exact unspoiled.lengths each earlier
        · rw [same]
          exact unspoiled.lengths pending known
      · exact congrFun (waiting_set found _) key

theorem Unspoiled.udpWritten {index : Nat} (stepped : server.udpWritten index = some next) :
    Moves server next (¬Spoils config server (.udpWritten index)) := by
  rw [TUNServer.udpWritten] at stepped
  cases found : server.pendingUDP[index]? with
  | none =>
    rw [found] at stepped
    cases stepped
  | some pending =>
    rw [found] at stepped
    dsimp only at stepped
    cases dialed : pending.conn with
    | none =>
      rw [dialed] at stepped
      cases stepped
    | some conn =>
      rw [dialed] at stepped
      cases stepped
      have ⟨⟨before, after, whole, erased⟩, elsewhere⟩ := waiting_eraseIdx found
      have length := unspoiled.lengths pending (mem_of_getElem? found)
      have short : (server.slice pending).length ≤ pending.payload.length := by
        rw [← length]
        exact length_take_le _ _
      have writes := @Unspoiled.writes server { server with
          wire := server.wire.write pending.key conn (server.slice pending)
          pendingUDP := server.pendingUDP.eraseIdx index
          udpReaders := server.udpReaders ++ [(conn, pending.key)] } unspoiled server.wire
        pending.key conn (server.slice pending) [] rfl (append_nil _).symm rfl rfl elsewhere
        (fun each member => unspoiled.lengths each (mem_of_mem_eraseIdx member)) (by
          rw [whole, erased]
          simp only [length_append, length_cons, length_nil]
          omega) (by
          rw [whole, erased]
          simp only [flatten_append, flatten_cons, length_append, flatten_nil]
          omega)
      rw [append_nil] at writes
      refine writes.congr ⟨?_, fun unspoilt => ?_⟩
      · intro both ⟨other, number, again, used, spoilt⟩
        cases found.symm.trans again
        cases dialed.symm.trans used
        exact spoilt both
      · by_contra spoilt
        exact unspoilt ⟨pending, conn, found, dialed, spoilt⟩

theorem Unspoiled.remove (goes : NatEntry → Bool) : (server.remove goes).Unspoiled := by
  refine ⟨unspoiled.unframed.shut fun number => ?_, unspoiled.lengths⟩
  change (server.wire.conns.mapIdx _)[number]? = _ ∨ (server.wire.conns.mapIdx _)[number]? = _
  rw [List.getElem?_mapIdx]
  split
  · exact .inr rfl
  · exact .inl Option.map_id'

theorem Unspoiled.step (stepped : step config server event = some next) :
    Moves server next (¬Spoils config server event) := by
  cases event with
  | packet bytes failure =>
    cases stepped
    unfold readPacket Spoils
    dsimp only
    by_cases shut : server.closed = true
    · rw [if_pos shut]
      refine unspoiled.kept rfl rfl ?_
      split
      · intro ⟨opened, _⟩
        rw [shut] at opened
        cases opened
      · exact id
    · rw [if_neg shut]
      have filled : (server.fill (config.readable bytes)).Unspoiled :=
        ⟨unspoiled.unframed, unspoiled.lengths⟩
      cases ingress config (config.readable bytes) with
      | dropped | mesh packet => exact unspoiled.kept rfl rfl id
      | tcp srcIP dstIP tcpData =>
        have ⟨_, _, _, _, same⟩ := (server.fill (config.readable bytes)).handleTCP_eq srcIP dstIP
          tcpData failure
        dsimp only
        rw [same]
        exact unspoiled.kept rfl rfl id
      | udp srcIP dstIP start udpData =>
        have moves := filled.handleUDP srcIP dstIP start udpData
        have opened : server.closed = false := Bool.not_eq_true _ ▸ shut
        dsimp only
        rw [and_iff_right opened]
        exact ⟨moves.effect, moves.unspoiled⟩
  | tcpDialed index succeeded =>
    have ⟨wire, pending⟩ := tcpSteps_frame (.inl stepped)
    exact unspoiled.kept wire pending id
  | udpDialed index link => exact unspoiled.udpDialed stepped
  | udpWritten index => exact unspoiled.udpWritten stepped
  | tcpEnded index =>
    have ⟨wire, pending⟩ := @tcpSteps_frame server next index false (.inr stepped)
    exact unspoiled.kept wire pending id
  | udpEnded index =>
    have stepped : server.udpEnded index = some next := stepped
    rw [udpEnded] at stepped
    split at stepped
    · cases stepped
    rename_i conn key _
    cases stepped
    refine Unspoiled.moves _ ⟨unspoiled.unframed.shut fun number => ?_, unspoiled.lengths⟩ rfl rfl
      (fun _ => rfl) id
    rw [Wire.close, List.getElem?_modify]
    split
    · exact .inr rfl
    · exact .inl Option.map_id'
  | cleanup =>
    cases stepped
    split
    · exact unspoiled.kept rfl rfl id
    · exact (unspoiled.remove _).moves _ rfl rfl (fun _ => rfl) id
  | elapse duration =>
    cases stepped
    exact unspoiled.kept rfl rfl id
  | close =>
    cases stepped
    split
    · exact unspoiled.kept rfl rfl id
    · have removed := unspoiled.remove fun _ => true
      exact Unspoiled.moves _ ⟨removed.unframed, removed.lengths⟩ rfl rfl (fun _ => rfl) id

end

theorem always_intact_iff (config : TUNConfig) (events : List TUNEvent) :
    (machine config).Always Intact (start config) events ↔
      (machine config).Never (Spoils config) (start config) events := by
  apply Machine.always_iff_never_of Unspoiled
  · intro server next event unspoiled intact stepped spared
    have moves := unspoiled.step stepped
    have ⟨flow, new, arrived, sent, reached, elsewhere, kept⟩ := moves.effect
    refine ⟨moves.unspoiled spared, fun key => ?_⟩
    rw [sent, reached]
    exact (balanced_iff flow intact elsewhere new arrived).mpr (kept.mpr spared) key
  · intro server next event unspoiled intact stepped spoilt nextIntact
    have ⟨flow, new, arrived, sent, reached, elsewhere, kept⟩ := (unspoiled.step stepped).effect
    refine kept.mp ((balanced_iff flow intact elsewhere new arrived).mp fun key => ?_) spoilt
    rw [← sent, ← reached]
    exact nextIntact key
  · exact ⟨nofun, nofun⟩
  · intro key
    rfl

end TUNServer

/-- For both inbounds and both kinds of connection: along every run what reaches each target is what
was sent to it, each datagram once and in order, exactly when no step of the run spoils a
datagram. -/
theorem datagrams_intact_iff_unspoiled (services : Services) (config : TUNConfig)
    (associationEvents : List AssociationEvent) (tunEvents : List TUNEvent) :
    ((Association.machine services).Always Association.Intact Association.new associationEvents ↔
      (Association.machine services).Never Association.Spoils Association.new associationEvents) ∧
    ((TUNServer.machine config).Always TUNServer.Intact (TUNServer.start config) tunEvents ↔
      (TUNServer.machine config).Never (TUNServer.Spoils config) (TUNServer.start config)
        tunEvents) :=
  ⟨Association.always_intact_iff services associationEvents,
    TUNServer.always_intact_iff config tunEvents⟩

def queryDatagram : ClientDatagram where
  address := .ipv4 ⟨[1, 2, 3, 4], rfl⟩
  port := 53
  payload := lit "hi"
  unbracketed := by decide +kernel
  fits := by decide +kernel

def emptyDatagram : ClientDatagram where
  address := .domain ⟨lit "ns", by decide⟩
  port := 53
  payload := []
  unbracketed := by decide +kernel
  fits := by decide +kernel

/-- What was sent to a target and what reached it at the end of a run. -/
def Association.delivery (events : List AssociationEvent) (target : GoString) :
    Option (List (List UInt8) × List (List UInt8)) :=
  ((machine .unnamed).run new events).map fun association =>
    (ofFlow target association.wire.sent, ofFlow target association.wire.reached)

def queryKey (port : UInt16) : NatKey := ⟨.v4 0x0a000002, .v4 0x0a000001, port, 53⟩

def queryRead (port : UInt16) (payload : List UInt8) : TUNEvent :=
  .packet ([0x45, 0] ++ beBytes 2 (28 + payload.length) ++
    [0, 0, 0, 0, 64, 17, 0, 0, 10, 0, 0, 2, 10, 0, 0, 1] ++ beBytes 2 port.toNat ++ [0, 53] ++
    beBytes 2 (8 + payload.length) ++ [0, 0] ++ payload) none

def TUNServer.delivery (events : List TUNEvent) (port : UInt16) :
    Option (List (List UInt8) × List (List UInt8)) :=
  ((machine ⟨1500, none⟩).run (start ⟨1500, none⟩) events).map fun server =>
    (ofFlow (queryKey port) server.wire.sent, ofFlow (queryKey port) server.wire.reached)

/-- An association sends the frame to a socket, ends its stream at a short frame, and writes to a
stream whose relay has ended. The TUN inbound writes no frame to a stream, and sends a socket what
the next packet left in the buffer. -/
theorem datagrams_garbled :
    Association.delivery [.datagram queryDatagram (some .direct)] (lit "1.2.3.4:53") =
      some ([lit "hi"], [[0, 9, 1, 1, 2, 3, 4, 0, 53] ++ lit "hi"]) ∧
    Association.delivery [.datagram emptyDatagram (some .proxied)] (lit "ns:53") =
      some ([[]], []) ∧
    Association.delivery [.datagram queryDatagram (some .proxied), .relayEnded 0,
        .datagram queryDatagram none] (lit "1.2.3.4:53") =
      some ([lit "hi", lit "hi"], [lit "hi"]) ∧
    TUNServer.delivery [queryRead 1000 (lit "hi"), .udpDialed 0 (some .proxied), .udpWritten 0]
        1000 =
      some ([lit "hi"], []) ∧
    TUNServer.delivery [queryRead 1000 (lit "one"), queryRead 1001 (lit "two"),
        .udpDialed 0 (some .direct), .udpWritten 0] 1000 =
      some ([lit "one"], [lit "two"]) := by
  refine ⟨by decide +kernel, by decide +kernel, by decide +kernel, by decide +kernel,
    by decide +kernel⟩

end Shuttle.Proxy
