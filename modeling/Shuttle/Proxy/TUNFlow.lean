import Mathlib.Data.List.Infix
import Shuttle.Proxy.TUN

/-!
# TCP flows of the TUN inbound

What the proxied connection of a TCP flow is written: the payloads of the flow's segments in the
order they are read, while the connection is the one that the flow has in the table and up to the
first segment with FIN or RST. A flow that has lost its connection does not get it back.
-/

namespace Shuttle.Proxy

open Shuttle.Go Shuttle.Lib List Option

namespace TUNServer

variable (server : TUNServer)

def connOf (key : NatKey) : Option Nat := (server.tcp key).map NatEntry.conn

def recordOf (conn : Nat) : Option (NatKey × List UInt8) :=
  server.tcpConns[conn]?.map fun conn => (conn.key, conn.written)

def flowData (config : TUNConfig) (key : NatKey) : TUNEvent → Option (List UInt8)
  | .packet bytes _ =>
    match ingress config (config.readable bytes) with
    | .tcp srcIP dstIP tcpData =>
      if 20 ≤ tcpData.length ∧ natKey srcIP dstIP tcpData = key then some tcpData else none
    | _ => none
  | _ => none

/-- A write to the connection of a flow does not fail. -/
def Delivers (config : TUNConfig) (key : NatKey) : TUNEvent → Prop
  | .packet bytes failure =>
    (flowData config key (.packet bytes failure)).isSome → failure = none
  | _ => True

instance (config : TUNConfig) (key : NatKey) : DecidablePred (Delivers config key)
  | .packet bytes failure =>
    inferInstanceAs
      (Decidable ((flowData config key (.packet bytes failure)).isSome → failure = none))
  | .tcpDialed _ _ | .udpDialed _ _ | .udpWritten _ | .tcpEnded _ | .udpEnded _ | .cleanup
  | .elapse _ | .close => .isTrue trivial

/-- The segments of a flow that are read while a connection is the one it has in the table. -/
def served (config : TUNConfig) (key : NatKey) (conn : Nat) :
    TUNServer → List TUNEvent → List (List UInt8)
  | _, [] => []
  | server, event :: events =>
    if server.connOf key = some conn then
      match step config server event with
      | none => []
      | some next => (flowData config key event).toList ++ served config key conn next events
    else []

def writtenTo (conn : Nat) : List UInt8 :=
  ((server.recordOf conn).map Prod.snd).getD []

/-- What is forwarded of the segments of a flow: everything up to the first that ends it. -/
def forwarded : List (List UInt8) → List UInt8
  | [] => []
  | tcpData :: rest => if TearsDown tcpData then [] else tcpPayload tcpData ++ forwarded rest

theorem forwarded_nil : forwarded [] = [] := rfl

theorem forwarded_ends {tcpData : List UInt8} (ends : TearsDown tcpData)
    (rest : List (List UInt8)) : forwarded (tcpData :: rest) = [] := by
  rw [forwarded, if_pos ends]

theorem forwarded_goesOn {tcpData : List UInt8} (goesOn : ¬TearsDown tcpData)
    (rest : List (List UInt8)) :
    forwarded (tcpData :: rest) = tcpPayload tcpData ++ forwarded rest := by
  rw [forwarded, if_neg goesOn]

def Owned : Prop :=
  ∀ key conn, server.connOf key = some conn → (server.recordOf conn).map Prod.fst = some key

variable {server next : TUNServer}

theorem touch_conn (table : GoMap NatKey NatEntry) (key other : NatKey) (now : Nat) :
    (touch table key now other).map NatEntry.conn = (table other).map NatEntry.conn := by
  rw [touch]
  cases found : table key with
  | none => rfl
  | some entry =>
    dsimp only
    rw [GoMap.set, Function.update_apply]
    split
    · rename_i same
      rw [same, found]
      rfl
    · rfl

theorem tearDownTCP_spec (server : TUNServer) (key : NatKey) (conn : Nat) :
    (∀ other, (server.tearDownTCP key conn).connOf other =
      if other = key then none else server.connOf other) ∧
    (server.tearDownTCP key conn).recordOf = server.recordOf := by
  constructor
  · intro other
    change (Function.update server.tcp key none other).map NatEntry.conn = _
    rw [Function.update_apply]
    split <;> rfl
  · funext number
    rw [recordOf, tearDownTCP, List.getElem?_modify, recordOf]
    cases server.tcpConns[number]? with
    | none => rfl
    | some record =>
      split <;> rfl

theorem writeTCP_spec (server : TUNServer) (conn : Nat) (bytes : List UInt8) :
    (server.writeTCP conn bytes).connOf = server.connOf ∧
    ∀ number, (server.writeTCP conn bytes).recordOf number =
      (server.recordOf number).map fun record =>
        if conn = number then (record.1, record.2 ++ bytes) else record := by
  refine ⟨rfl, fun number => ?_⟩
  rw [recordOf, writeTCP, List.getElem?_modify, recordOf]
  cases server.tcpConns[number]? with
  | none => rfl
  | some record =>
    split <;> rfl

theorem connOf_touch (server : TUNServer) (key : NatKey) :
    ({ server with tcp := touch server.tcp key server.now } : TUNServer).connOf =
      server.connOf := by
  funext other
  exact touch_conn server.tcp key other server.now

/-- A step serves a flow: no other flow loses its connection, and no other connection is written
to. -/
structure Serves (key : NatKey) (server next : TUNServer) : Prop where
  table : ∀ other, next.connOf other = server.connOf other ∨ other = key ∧ next.connOf other = none
  records : ∀ conn, next.recordOf conn = server.recordOf conn ∨ server.connOf key = some conn ∧
    ∃ more, next.recordOf conn = (server.recordOf conn).map fun record =>
      (record.1, record.2 ++ more)

variable {key : NatKey} {conn : Nat} {srcIP dstIP : Addr} {tcpData written : List UInt8}
  {failure : Option Nat}

theorem Serves.conns {other : NatKey} (serves : Serves key server next)
    (found : next.connOf other = some conn) : server.connOf other = some conn := by
  rcases serves.table other with same | ⟨_, none⟩
  · rw [same] at found
    exact found
  · rw [none] at found
    cases found

theorem Serves.keys (serves : Serves key server next) (conn : Nat) :
    (next.recordOf conn).map Prod.fst = (server.recordOf conn).map Prod.fst := by
  rcases serves.records conn with same | ⟨_, more, appended⟩
  · rw [same]
  · rw [appended, Option.map_map]
    rfl

theorem Serves.refl (key : NatKey) (server : TUNServer) : Serves key server server :=
  ⟨fun _ => .inl rfl, fun _ => .inl rfl⟩

theorem Serves.touch (key : NatKey) (server : TUNServer) :
    Serves key server { server with tcp := touch server.tcp key server.now } :=
  ⟨fun other => .inl (congrFun (server.connOf_touch key) other), fun _ => .inl rfl⟩

theorem Serves.tearDownTCP (serves : Serves key server next) (conn : Nat) :
    Serves key server (next.tearDownTCP key conn) := by
  have ⟨table, records⟩ := next.tearDownTCP_spec key conn
  constructor
  · intro other
    rw [table]
    split
    · rename_i same
      exact .inr ⟨same, rfl⟩
    · exact serves.table other
  · intro number
    rw [records]
    exact serves.records number

theorem Serves.writeTCP (held : server.connOf key = some conn) (bytes : List UInt8) :
    Serves key server
      (({ server with tcp := TUNServer.touch server.tcp key server.now } : TUNServer).writeTCP conn
        bytes) := by
  have ⟨table, records⟩ :=
    ({ server with tcp := TUNServer.touch server.tcp key server.now } : TUNServer).writeTCP_spec
      conn bytes
  constructor
  · intro other
    exact .inl (congrFun (server.connOf_touch key) other)
  · intro number
    rw [records]
    by_cases same : conn = number
    · refine .inr ⟨by rw [held, same], bytes, ?_⟩
      simp only [if_pos same]
      rfl
    · refine .inl ?_
      simp only [if_neg same]
      exact map_id'

theorem handleTCP_serves (server : TUNServer) (own : natKey srcIP dstIP tcpData = key)
    (failure : Option Nat) :
    Serves key server (server.handleTCP srcIP dstIP tcpData failure) := by
  have same := Serves.refl key server
  have touched := Serves.touch key server
  unfold TUNServer.handleTCP
  dsimp only
  rw [own]
  split
  · exact same
  split
  · cases server.tcp key with
    | none => split <;> exact ⟨same.table, same.records⟩
    | some entry =>
      have torn := same.tearDownTCP entry.conn
      split <;> exact ⟨torn.table, torn.records⟩
  · split
    · cases server.tcp key with
      | none => exact ⟨same.table, same.records⟩
      | some entry => exact touched
    · cases found : server.tcp key with
      | none => exact same
      | some entry =>
        have held : server.connOf key = some entry.conn := by
          rw [connOf, found]
          rfl
        dsimp only
        split
        · split
          · split
            · exact Serves.writeTCP held _
            · rename_i count
              have torn := (Serves.writeTCP held
                ((tcpPayload tcpData).take count)).tearDownTCP entry.conn
              exact ⟨torn.table, torn.records⟩
          · exact touched
        · exact touched

theorem handleTCP_tearsDown (own : natKey srcIP dstIP tcpData = key)
    (long : 20 ≤ tcpData.length) (ends : TearsDown tcpData) :
    (server.handleTCP srcIP dstIP tcpData failure).connOf key = none ∧
      (server.handleTCP srcIP dstIP tcpData failure).recordOf = server.recordOf := by
  have notShort : ¬tcpData.length < 20 := by omega
  unfold TUNServer.handleTCP
  rw [if_neg notShort, own]
  dsimp only
  rw [if_pos ends]
  cases found : server.tcp key with
  | none =>
    have unknown : server.connOf key = none := by
      rw [connOf, found]
      rfl
    split <;> exact ⟨unknown, rfl⟩
  | some entry =>
    have ⟨table, records⟩ := server.tearDownTCP_spec key entry.conn
    have forgotten := table key
    rw [if_pos rfl] at forgotten
    split <;> exact ⟨forgotten, records⟩

theorem handleTCP_data (own : natKey srcIP dstIP tcpData = key) (long : 20 ≤ tcpData.length)
    (goesOn : ¬TearsDown tcpData) (plain : tcpFlags tcpData &&& tcpFlagSYN = 0) :
    (server.handleTCP srcIP dstIP tcpData none).connOf key = server.connOf key ∧
      ∀ conn, server.connOf key = some conn →
        (server.handleTCP srcIP dstIP tcpData none).recordOf conn =
          (server.recordOf conn).map fun record => (record.1, record.2 ++ tcpPayload tcpData) := by
  have notShort : ¬tcpData.length < 20 := by omega
  have notOpening : ¬(tcpFlags tcpData &&& tcpFlagSYN ≠ 0 ∧ tcpFlags tcpData &&& tcpFlagACK = 0) :=
    fun opening => opening.1 plain
  unfold TUNServer.handleTCP
  rw [if_neg notShort, own, if_neg goesOn, if_neg notOpening]
  cases found : server.tcp key with
  | none =>
    refine ⟨rfl, fun conn held => ?_⟩
    rw [connOf, found] at held
    cases held
  | some entry =>
    have held : server.connOf key = some entry.conn := by
      rw [connOf, found]
      rfl
    have touched := congrFun (server.connOf_touch key) key
    have empty (none : tcpPayload tcpData = []) (record : NatKey × List UInt8) :
        (record.1, record.2 ++ tcpPayload tcpData) = record := by
      rw [none, append_nil]
    dsimp only
    split
    · split
      · have ⟨table, records⟩ := ({ server with tcp := touch server.tcp key server.now } :
          TUNServer).writeTCP_spec entry.conn (tcpPayload tcpData)
        refine ⟨(congrFun table _).trans touched, fun conn same => ?_⟩
        rw [held] at same
        cases same
        rw [records]
        simp only [if_true]
        rfl
      · refine ⟨touched, fun conn _ => ?_⟩
        simp only [empty (eq_nil_of_length_eq_zero (by omega))]
        exact map_id'.symm
    · have none : tcpPayload tcpData = [] := drop_eq_nil_of_le (by omega)
      refine ⟨touched, fun conn _ => ?_⟩
      simp only [empty none]
      exact map_id'.symm

theorem remove_recordOf (server : TUNServer) (goes : NatEntry → Bool) :
    (server.remove goes).recordOf = server.recordOf := by
  funext number
  change ((server.tcpConns.mapIdx _)[number]?).map _ = _
  rw [List.getElem?_mapIdx, Option.map_map, recordOf]
  cases server.tcpConns[number]? with
  | none => rfl
  | some conn =>
    rw [map_some, Function.comp_apply]
    split <;> rfl

theorem remove_connOf {goes : NatEntry → Bool}
    (found : (server.remove goes).connOf key = some conn) :
    server.connOf key = some conn ∧ ∃ entry, goes entry = false := by
  change ((server.tcp key).filter fun entry => !goes entry).map NatEntry.conn = some conn at found
  rw [connOf]
  cases held : server.tcp key with
  | none =>
    rw [held] at found
    cases found
  | some entry =>
    rw [held, filter_some] at found
    split at found
    · rename_i stays
      exact ⟨found, entry, Bool.not_eq_true' _ ▸ stays⟩
    · cases found

inductive Effect (config : TUNConfig) (event : TUNEvent) (server next : TUNServer) : Prop
  | served (key : NatKey) (own : (flowData config key event).isSome)
      (serves : Serves key server next) (kept : next.closed = server.closed)
  | dialed (key : NatKey)
      (table : ∀ other, next.connOf other =
        if other = key then some server.tcpConns.length else server.connOf other)
      (records : ∀ conn, next.recordOf conn =
        if conn = server.tcpConns.length then some (key, []) else server.recordOf conn)
      (kept : next.closed = server.closed)
  /-- It writes nothing, and a flow that has a connection had it before. -/
  | quiet (conns : ∀ key conn, next.connOf key = some conn →
        server.connOf key = some conn ∧ next.closed = server.closed)
      (records : next.recordOf = server.recordOf)

variable {config : TUNConfig} {event : TUNEvent}

theorem Effect.same (table : next.connOf = server.connOf)
    (records : next.recordOf = server.recordOf)
    (kept : next.closed = server.closed) : Effect config event server next := by
  refine .quiet (fun key conn found => ⟨?_, kept⟩) records
  rw [← table, found]

theorem handleUDP_flows (server : TUNServer) (srcIP dstIP : Addr) (start : Nat)
    (udpData : List UInt8) :
    (server.handleUDP srcIP dstIP start udpData).connOf = server.connOf ∧
      (server.handleUDP srcIP dstIP start udpData).recordOf = server.recordOf ∧
      (server.handleUDP srcIP dstIP start udpData).closed = server.closed := by
  unfold handleUDP
  dsimp only
  split
  · exact ⟨rfl, rfl, rfl⟩
  · split <;> exact ⟨rfl, rfl, rfl⟩

theorem Effect.readPacket (config : TUNConfig) (server : TUNServer) (bytes : List UInt8)
    (failure : Option Nat) :
    Effect config (.packet bytes failure) server (readPacket config server bytes failure) := by
  unfold TUNServer.readPacket
  dsimp only
  split
  · exact .same rfl rfl rfl
  cases carried : ingress config (config.readable bytes) with
  | dropped | mesh packet => exact .same rfl rfl rfl
  | tcp srcIP dstIP tcpData =>
    dsimp only
    by_cases long : 20 ≤ tcpData.length
    · have serves := (server.fill (config.readable bytes)).handleTCP_serves
        (rfl : natKey srcIP dstIP tcpData = _) failure
      have ⟨_, _, _, _, same⟩ := (server.fill (config.readable bytes)).handleTCP_eq srcIP dstIP
        tcpData failure
      have own :
          (flowData config (natKey srcIP dstIP tcpData) (.packet bytes failure)).isSome := by
        rw [flowData, carried]
        dsimp only
        rw [if_pos ⟨long, rfl⟩]
        rfl
      exact .served (natKey srcIP dstIP tcpData) own ⟨serves.table, serves.records⟩
        (by rw [same]; rfl)
    · have short : tcpData.length < 20 := by omega
      rw [handleTCP, if_pos short]
      exact .same rfl rfl rfl
  | udp srcIP dstIP start udpData =>
    have ⟨table, records, kept⟩ :=
      (server.fill (config.readable bytes)).handleUDP_flows srcIP dstIP start udpData
    exact .same table records kept

theorem Effect.tcpDialed {index : Nat} {succeeded : Bool}
    (stepped : server.tcpDialed index succeeded = some next) : Effect config event server next := by
  rw [TUNServer.tcpDialed] at stepped
  cases found : server.dialingTCP[index]? with
  | none =>
    rw [found] at stepped
    cases stepped
  | some pair =>
    rw [found] at stepped
    cases succeeded with
    | false =>
      cases stepped
      exact .same rfl rfl rfl
    | true =>
      cases stepped
      refine .dialed pair.1 (fun other => ?_) (fun conn => ?_) rfl
      · change (Function.update server.tcp pair.1 _ other).map NatEntry.conn = _
        rw [Function.update_apply]
        split <;> rfl
      · change ((server.tcpConns ++ [⟨pair.1, [], false⟩])[conn]?).map _ = _
        by_cases last : conn = server.tcpConns.length
        · rw [if_pos last, last, List.getElem?_concat_length]
          rfl
        · rw [if_neg last, recordOf]
          by_cases below : conn < server.tcpConns.length
          · rw [List.getElem?_append_left below]
          rw [List.getElem?_eq_none, List.getElem?_eq_none]
          · omega
          · rw [length_append, length_singleton]
            omega

theorem Effect.tcpEnded {index : Nat} (stepped : server.tcpEnded index = some next) :
    Effect config event server next := by
  rw [TUNServer.tcpEnded] at stepped
  cases found : server.tcpReaders[index]? with
  | none =>
    rw [found] at stepped
    cases stepped
  | some pair =>
    have ⟨table, records⟩ := server.tearDownTCP_spec pair.2 pair.1
    rw [found] at stepped
    cases stepped
    refine .quiet (fun key conn held => ⟨?_, rfl⟩) records
    have gone : (server.tearDownTCP pair.2 pair.1).connOf key = some conn := held
    rw [table] at gone
    split at gone
    · cases gone
    · exact gone

theorem step_effect (stepped : step config server event = some next) :
    Effect config event server next := by
  cases event with
  | packet bytes failure =>
    cases stepped
    exact .readPacket config server bytes failure
  | tcpDialed index succeeded => exact .tcpDialed stepped
  | udpDialed index link =>
    have stepped : server.udpDialed index link = some next := stepped
    rw [udpDialed] at stepped
    split at stepped
    · cases stepped
    · split at stepped
      · cases stepped
      · split at stepped <;> cases stepped <;> exact .same rfl rfl rfl
  | udpWritten index =>
    have stepped : server.udpWritten index = some next := stepped
    rw [udpWritten] at stepped
    split at stepped
    · cases stepped
    · split at stepped <;> cases stepped
      exact .same rfl rfl rfl
  | tcpEnded index => exact .tcpEnded stepped
  | udpEnded index =>
    have stepped : server.udpEnded index = some next := stepped
    rw [udpEnded] at stepped
    split at stepped <;> cases stepped
    exact .same rfl rfl rfl
  | cleanup =>
    cases stepped
    split
    · exact .same rfl rfl rfl
    · exact .quiet (fun _ _ found => ⟨(remove_connOf found).1, rfl⟩) (server.remove_recordOf _)
  | elapse duration =>
    cases stepped
    exact .same rfl rfl rfl
  | close =>
    cases stepped
    split
    · exact .same rfl rfl rfl
    refine .quiet (fun key conn found => ?_) (server.remove_recordOf fun _ => true)
    have held : (server.remove fun _ => true).connOf key = some conn := found
    have ⟨_, _, stays⟩ := remove_connOf held
    cases stays

theorem ne_length_of_recordOf {record : NatKey × List UInt8}
    (held : server.recordOf conn = some record) : conn ≠ server.tcpConns.length := by
  intro last
  rw [recordOf, last, List.getElem?_eq_none (Nat.le_refl _)] at held
  cases held

theorem Owned.step (owned : server.Owned) (stepped : step config server event = some next) :
    next.Owned := by
  intro other conn found
  cases step_effect stepped with
  | served key own serves kept =>
    rw [serves.keys]
    exact owned other conn (serves.conns found)
  | dialed key table records kept =>
    rw [table] at found
    rw [records]
    split at found
    · rename_i same
      rw [if_pos (Option.some.inj found).symm, same]
      rfl
    · have held := owned other conn found
      have ⟨record, recorded, _⟩ := map_eq_some_iff.mp held
      rw [if_neg (ne_length_of_recordOf recorded)]
      exact held
  | quiet conns records =>
    rw [records]
    exact owned other conn (conns other conn found).1

theorem Serves.unwritten {other : NatKey} (serves : Serves other server next) (owned : server.Owned)
    (held : server.recordOf conn = some (key, written))
    (apart : other ≠ key ∨ server.connOf key ≠ some conn) :
    next.recordOf conn = some (key, written) := by
  rcases serves.records conn with same | ⟨found, _⟩
  · rw [same, held]
  have owner := owned other conn found
  rw [held] at owner
  have equal : key = other := Option.some.inj owner
  rw [equal] at apart
  rcases apart with apart | apart
  · exact absurd rfl apart
  · exact absurd found apart

theorem step_unwritten (owned : server.Owned)
    (held : server.recordOf conn = some (key, written))
    (idle : flowData config key event = none ∨ server.connOf key ≠ some conn)
    (stepped : step config server event = some next) :
    next.recordOf conn = some (key, written) := by
  cases step_effect stepped with
  | served other own serves kept =>
    refine serves.unwritten owned held (idle.imp_left fun foreign equal => ?_)
    rw [equal, foreign] at own
    cases own
  | dialed other table records kept =>
    rw [records, if_neg (ne_length_of_recordOf held), held]
  | quiet conns records => rw [records, held]

theorem step_entered {record : NatKey × List UInt8}
    (held : server.recordOf conn = some record) (stepped : step config server event = some next)
    (entered : next.connOf key = some conn) :
    server.connOf key = some conn ∧ next.closed = server.closed := by
  cases step_effect stepped with
  | served other own serves kept => exact ⟨serves.conns entered, kept⟩
  | dialed other table records kept =>
    refine ⟨?_, kept⟩
    rw [table] at entered
    split at entered
    · exact absurd (Option.some.inj entered).symm (ne_length_of_recordOf held)
    · exact entered
  | quiet conns records => exact conns key conn entered

theorem readPacket_own {bytes : List UInt8} (opened : server.closed = false)
    (own : flowData config key (.packet bytes failure) = some tcpData) :
    20 ≤ tcpData.length ∧ ∃ srcIP dstIP, natKey srcIP dstIP tcpData = key ∧
      readPacket config server bytes failure =
        (server.fill (config.readable bytes)).handleTCP srcIP dstIP tcpData failure := by
  rw [flowData] at own
  cases carried : ingress config (config.readable bytes) with
  | dropped | mesh packet | udp srcIP dstIP start udpData =>
    rw [carried] at own
    cases own
  | tcp srcIP dstIP segment =>
    rw [carried] at own
    dsimp only at own
    split at own
    · rename_i known
      cases own
      refine ⟨known.1, srcIP, dstIP, known.2, ?_⟩
      rw [readPacket, opened, if_neg Bool.false_ne_true]
      dsimp only
      rw [carried]
    · cases own

theorem served_lost (lost : server.connOf key ≠ some conn)
    (events : List TUNEvent) : served config key conn server events = [] := by
  cases events with
  | nil => rfl
  | cons event events => rw [served, if_neg lost]

theorem served_cons (entered : server.connOf key = some conn)
    (stepped : step config server event = some next) (events : List TUNEvent) :
    served config key conn server (event :: events) =
      (flowData config key event).toList ++ served config key conn next events := by
  rw [served, if_pos entered, stepped]

theorem served_front (events : List TUNEvent) :
    ∀ server, served config key conn server events <+: events.filterMap (flowData config key) := by
  induction events with
  | nil => exact fun _ => List.nil_prefix
  | cons event events ih =>
    intro server
    rw [served]
    split
    · split
      · exact List.nil_prefix
      · rename_i next _
        cases brought : flowData config key event with
        | none =>
          rw [filterMap_cons_none brought]
          exact ih next
        | some tcpData =>
          rw [filterMap_cons_some brought]
          exact (prefix_append_right_inj [tcpData]).mpr (ih next)
    · exact List.nil_prefix

theorem step_served (opened : server.closed = false)
    (held : server.recordOf conn = some (key, written))
    (entered : server.connOf key = some conn) (brought : flowData config key event = some tcpData)
    (plain : tcpFlags tcpData &&& tcpFlagSYN = 0) (delivers : Delivers config key event)
    (stepped : step config server event = some next) :
    if TearsDown tcpData then
      next.recordOf conn = some (key, written) ∧ next.connOf key ≠ some conn
    else next.recordOf conn = some (key, written ++ tcpPayload tcpData) := by
  cases event with
  | packet bytes failure =>
    have delivered : failure = none := delivers (by rw [brought]; rfl)
    have ⟨long, srcIP, dstIP, own, handled⟩ := readPacket_own opened brought
    have result : readPacket config server bytes failure = next := Option.some.inj stepped
    rw [handled] at result
    split
    · rename_i ends
      have ⟨gone, records⟩ := @handleTCP_tearsDown (server.fill (config.readable bytes)) _ _ _ _
        failure own long ends
      rw [result] at gone records
      rw [records, gone]
      exact ⟨held, nofun⟩
    · rename_i goesOn
      have ⟨_, records⟩ := @handleTCP_data (server.fill (config.readable bytes)) _ _ _ _ own long
        goesOn plain
      rw [delivered] at result
      rw [result] at records
      rw [records conn entered]
      exact congrArg (Option.map _) held
  | tcpDialed index succeeded | udpDialed index link | udpWritten index | tcpEnded index
  | udpEnded index | cleanup | elapse duration | close => cases brought

theorem run_forwards (events : List TUNEvent) {server final : TUNServer} {written : List UInt8}
    (owned : server.Owned) (opened : server.connOf key = some conn → server.closed = false)
    (delivers : ∀ event ∈ events, Delivers config key event)
    (plain : ∀ tcpData ∈ events.filterMap (flowData config key),
      tcpFlags tcpData &&& tcpFlagSYN = 0) (held : server.recordOf conn = some (key, written))
    (ran : (machine config).run server events = some final) :
    final.recordOf conn =
      some (key, written ++ forwarded (served config key conn server events)) := by
  induction events generalizing server final written with
  | nil =>
    cases ran
    rw [served, forwarded_nil, append_nil, held]
  | cons event events ih =>
    have ⟨next, stepped, rest⟩ := Machine.run_cons_some ran
    have ⟨deliversNow, deliversLater⟩ := forall_mem_cons.mp delivers
    have ownedNext : next.Owned := owned.step stepped
    have openedNext (again : next.connOf key = some conn) : next.closed = false :=
      have ⟨entered, kept⟩ := step_entered held stepped again
      kept.trans (opened entered)
    have plainLater : ∀ tcpData ∈ events.filterMap (flowData config key),
        tcpFlags tcpData &&& tcpFlagSYN = 0 := by
      intro tcpData member
      have ⟨other, known, brought⟩ := mem_filterMap.mp member
      exact plain tcpData (mem_filterMap.mpr ⟨other, mem_cons_of_mem _ known, brought⟩)
    by_cases entered : server.connOf key = some conn
    · rw [served_cons entered stepped]
      cases brought : flowData config key event with
      | none =>
        have kept := step_unwritten owned held (.inl brought) stepped
        exact ih ownedNext openedNext deliversLater plainLater kept rest
      | some tcpData =>
        have written := step_served (opened entered) held entered brought
          (plain tcpData (mem_filterMap.mpr ⟨event, mem_cons_self, brought⟩))
          deliversNow stepped
        rw [toList_some, singleton_append]
        split at written
        · rename_i ends
          have later := ih ownedNext openedNext deliversLater plainLater written.1 rest
          rw [served_lost written.2, forwarded_nil] at later
          rw [forwarded_ends ends, later]
        · rename_i goesOn
          have later := ih ownedNext openedNext deliversLater plainLater written rest
          rw [forwarded_goesOn goesOn, later, append_assoc]
    · have kept := step_unwritten owned held (.inr entered) stepped
      have lost : next.connOf key ≠ some conn := fun again =>
        entered (step_entered held stepped again).1
      have later := ih ownedNext openedNext deliversLater plainLater kept rest
      rw [served_lost lost] at later
      rw [served_lost entered, later]

/-- In no run does an event write to a connection of a flow that it brings no segment of. -/
theorem flows_isolated (config : TUNConfig) (events : List TUNEvent) :
    (machine config).Never (fun server event => ∃ conn key written next,
      server.recordOf conn = some (key, written) ∧ flowData config key event = none ∧
        step config server event = some next ∧ next.recordOf conn ≠ some (key, written))
      (start config) events := by
  intro before event after server _ _ ran _
  rintro ⟨conn, key, written, next, held, foreign, stepped, changed⟩
  have fresh : (start config).Owned := by
    intro other number found
    cases found
  have owned : server.Owned := Machine.run_invariant Owned Owned.step before fresh ran
  exact changed (step_unwritten owned held (.inl foreign) stepped)

end TUNServer

end Shuttle.Proxy
