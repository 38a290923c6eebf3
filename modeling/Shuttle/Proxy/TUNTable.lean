import Shuttle.Proxy.TUNDatagrams
import Shuttle.Proxy.TUNStream

/-!
# The NAT table of the TUN inbound

A dial runs outside the lock of the table and enters its connection under the key of its flow,
whatever stands there; a reader that ends deletes that key, whatever connection it has by then. So a
flow gets a second open connection when a dial completes beside one, and an open connection loses
its entry when the reader of another ends.
-/

namespace Shuttle.Proxy

open Shuttle.Go Shuttle.Lib List

/-- The connections that the flows of a protocol have in the table, and those that are open. -/
structure FlowTable where
  entry : NatKey → Option Nat
  isOpen : NatKey → Nat → Prop

namespace FlowTable

variable {table next : FlowTable} {key : NatKey} {conn : Nat}

def Tracked (table : FlowTable) : Prop := ∀ key conn, table.isOpen key conn →
  table.entry key = some conn

/-- A step that opens nothing, and leaves the entries of what stays open. -/
def Quiet (table next : FlowTable) : Prop := ∀ key conn, next.isOpen key conn →
  table.isOpen key conn ∧ (table.entry key = some conn → next.entry key = some conn)

theorem Quiet.refl (table : FlowTable) : Quiet table table := fun _ _ still => ⟨still, id⟩

theorem Tracked.unique {left right : Nat} (tracked : table.Tracked)
    (first : table.isOpen key left) (second : table.isOpen key right) : left = right :=
  Option.some.inj ((tracked key left first).symm.trans (tracked key right second))

theorem Tracked.quiet (tracked : table.Tracked) (quiet : Quiet table next) : next.Tracked :=
  fun key conn still => (quiet key conn still).2 (tracked key conn (quiet key conn still).1)

theorem Tracked.entered_iff (tracked : table.Tracked) (fresh : ∀ other, ¬table.isOpen other conn)
    (entry : ∀ other, next.entry other = if other = key then some conn else table.entry other)
    (isOpen : ∀ other number,
      next.isOpen other number ↔ table.isOpen other number ∨ other = key ∧ number = conn) :
    next.Tracked ↔ ¬∃ number, table.isOpen key number := by
  constructor
  · intro after ⟨number, already⟩
    have moved := after key number ((isOpen key number).mpr (.inl already))
    rw [entry, if_pos rfl] at moved
    exact fresh key (Option.some.inj moved ▸ already)
  · intro free other number still
    rw [entry]
    rcases (isOpen other number).mp still with older | ⟨own, new⟩
    · rw [if_neg fun own : other = key => free ⟨number, own ▸ older⟩]
      exact tracked other number older
    · rw [if_pos own, new]

theorem Tracked.left_iff (tracked : table.Tracked)
    (entry : ∀ other, next.entry other = if other = key then none else table.entry other)
    (isOpen : ∀ other number,
      next.isOpen other number ↔ table.isOpen other number ∧ number ≠ conn) :
    next.Tracked ↔ ¬∃ number, table.isOpen key number ∧ number ≠ conn := by
  constructor
  · intro after ⟨number, still⟩
    have kept := after key number ((isOpen key number).mpr still)
    rw [entry, if_pos rfl] at kept
    cases kept
  · intro free other number still
    have ⟨older, apart⟩ := (isOpen other number).mp still
    rw [entry, if_neg fun own : other = key => free ⟨number, own ▸ older, apart⟩]
    exact tracked other number older

end FlowTable

namespace TUNServer

variable {config : TUNConfig} {server next : TUNServer} {event : TUNEvent}

def tcpTable (server : TUNServer) : FlowTable where
  entry := server.connOf
  isOpen key number := ∃ conn, server.tcpConns[number]? = some conn ∧ conn.key = key ∧
    conn.closed = false

def udpTable (server : TUNServer) : FlowTable where
  entry key := (server.udp key).map NatEntry.conn
  isOpen key number := server.udpKeys[number]? = some key ∧
    ∃ conn, server.wire.conns[number]? = some conn ∧ conn.closed = false

/-- A dial completes for a flow that has an open connection, or the reader of a connection ends when
its flow has another one. -/
def Collides (server : TUNServer) : TUNEvent → Prop
  | .tcpDialed index true => ∃ dial, server.dialingTCP[index]? = some dial ∧
      ∃ number, server.tcpTable.isOpen dial.1 number
  | .tcpEnded index => ∃ reader, server.tcpReaders[index]? = some reader ∧
      ∃ number, server.tcpTable.isOpen reader.2 number ∧ number ≠ reader.1
  | .udpDialed index (some _) => ∃ pending, server.pendingUDP[index]? = some pending ∧
      ∃ number, server.udpTable.isOpen pending.key number
  | .udpEnded index => ∃ reader, server.udpReaders[index]? = some reader ∧
      ∃ number, server.udpTable.isOpen reader.2 number ∧ number ≠ reader.1
  | _ => False

/-! ## What the steps do to connections -/

theorem entry_update (table : GoMap NatKey NatEntry) (key other : NatKey)
    (entry : Option NatEntry) :
    (Function.update table key entry other).map NatEntry.conn =
      if other = key then entry.map NatEntry.conn else (table other).map NatEntry.conn := by
  rw [Function.update_apply]
  split <;> rfl

theorem tearDownTCP_isOpen (server : TUNServer) (key other : NatKey) (conn number : Nat) :
    (server.tearDownTCP key conn).tcpTable.isOpen other number ↔
      server.tcpTable.isOpen other number ∧ number ≠ conn :=
  exists_modify_iff nofun

theorem quiet_tearDownTCP {key : NatKey} {conn : Nat} (held : server.connOf key = some conn)
    (quiet : server.tcpTable.Quiet next.tcpTable) :
    server.tcpTable.Quiet (next.tearDownTCP key conn).tcpTable := by
  intro other number still
  have ⟨still, apart⟩ := (tearDownTCP_isOpen ..).mp still
  have ⟨before, entry⟩ := quiet other number still
  refine ⟨before, fun entered => ((next.tearDownTCP_spec key conn).1 other).trans ?_⟩
  have foreign : other ≠ key := by
    rintro rfl
    exact apart (Option.some.inj (entered.symm.trans held))
  rw [if_neg foreign]
  exact entry entered

theorem quiet_writeTCP (server : TUNServer) (key : NatKey) (conn : Nat) (bytes : List UInt8) :
    server.tcpTable.Quiet
      (writeTCP { server with tcp := touch server.tcp key server.now } conn bytes).tcpTable := by
  intro other number still
  refine ⟨exists_of_mapped (List.getElem?_modify ..) (fun _ still => ?_) still, fun entered => ?_⟩
  · split at still <;> exact still
  · exact (touch_conn server.tcp key other server.now).trans entered

theorem quiet_handleTCP (server : TUNServer) (srcIP dstIP : Addr) (tcpData : List UInt8)
    (failure : Option Nat) :
    server.tcpTable.Quiet (server.handleTCP srcIP dstIP tcpData failure).tcpTable := by
  unfold handleTCP
  dsimp only
  generalize natKey srcIP dstIP tcpData = key
  have same := FlowTable.Quiet.refl server.tcpTable
  have touched : server.tcpTable.Quiet
      ({ server with tcp := touch server.tcp key server.now } : TUNServer).tcpTable :=
    fun other _ still => ⟨still, (touch_conn server.tcp key other server.now).trans⟩
  split
  · exact same
  cases found : server.tcp key with
  | none =>
    split <;> split <;> exact same
  | some entry =>
    have held : server.connOf key = some entry.conn := by
      rw [connOf, found]
      rfl
    dsimp only
    split
    · split <;> exact quiet_tearDownTCP held same
    split
    · exact touched
    split
    · split
      · split
        · exact quiet_writeTCP _ _ _ _
        · exact quiet_tearDownTCP held (quiet_writeTCP _ _ _ _)
      · exact touched
    · exact touched

theorem quiet_remove (server : TUNServer) (goes : NatEntry → Bool) :
    server.tcpTable.Quiet (server.remove goes).tcpTable ∧
      server.udpTable.Quiet (server.remove goes).udpTable := by
  have stays {table : GoMap NatKey NatEntry} {key : NatKey} {conn : Nat}
      (held : (table key).map NatEntry.conn = some conn)
      (kept : ¬((table key).any fun entry => entry.conn = conn && goes entry) = true) :
      ((table key).filter fun entry => !goes entry).map NatEntry.conn = some conn := by
    have ⟨entry, found, same⟩ := Option.map_eq_some_iff.mp held
    simp_all
  constructor
  · intro key number ⟨conn, found, own, still⟩
    have ⟨old, held, same⟩ := Option.map_eq_some_iff.mp ((List.getElem?_mapIdx ..).symm.trans found)
    split at same
    · rw [← same] at still
      cases still
    · rename_i kept
      subst same own
      exact ⟨⟨old, held, rfl, still⟩, fun entered => stays entered kept⟩
  · intro key number ⟨own, conn, found, still⟩
    have ⟨old, held, same⟩ := Option.map_eq_some_iff.mp ((List.getElem?_mapIdx ..).symm.trans found)
    have own : server.udpKeys[number]? = some key := own
    rw [own] at same
    split at same
    · rw [← same] at still
      cases still
    · rename_i kept
      subst same
      exact ⟨⟨own, old, held, still⟩, fun entered => stays entered kept⟩

/-- The flows of the UDP connections are known. -/
def Aligned (server : TUNServer) : Prop := server.udpKeys.length = server.wire.conns.length

def Tracked (server : TUNServer) : Prop := server.tcpTable.Tracked ∧ server.udpTable.Tracked

theorem write_conns (wire : Wire NatKey) (key : NatKey) (index : Nat) (bytes : List UInt8) :
    (wire.write key index bytes).conns = wire.conns.modify index fun conn => conn.write bytes := by
  rw [Wire.write, List.modify_eq_set_getElem?]
  cases wire.conns[index]? <;> rfl

theorem quiet_write {index : Nat} {bytes : List UInt8}
    (entry : next.udpTable.entry = server.udpTable.entry) (keys : next.udpKeys = server.udpKeys)
    (written : next.wire.conns = server.wire.conns.modify index fun conn => conn.write bytes) :
    server.udpTable.Quiet next.udpTable := by
  intro key number ⟨own, still⟩
  rw [written] at still
  refine ⟨⟨keys ▸ own, exists_of_mapped (List.getElem?_modify ..) (fun conn still => ?_) still⟩,
    (congrFun entry key).trans⟩
  split at still
  · exact UDPConn.write_frame.2.symm.trans still
  · exact still

theorem udpDialed_isOpen (aligned : server.Aligned) (link : Link) (key other : NatKey)
    (number : Nat) :
    ((server.udpKeys ++ [key])[number]? = some other ∧
      ∃ conn, (server.wire.dial link).conns[number]? = some conn ∧ conn.closed = false) ↔
      server.udpTable.isOpen other number ∨ other = key ∧ number = server.wire.conns.length := by
  constructor
  · intro ⟨own, still⟩
    rcases getElem?_append_cases own with ⟨last, rfl⟩ | ⟨apart, own⟩
    · exact .inr ⟨rfl, last.trans aligned⟩
    · exact .inl ⟨own, (exists_append_iff.mp still).resolve_right
        fun last => apart (last.2.trans aligned.symm)⟩
  · rintro (⟨own, still⟩ | ⟨rfl, rfl⟩)
    · have inside := (List.getElem?_eq_some_iff.mp own).1
      exact ⟨by rw [List.getElem?_append_left inside, own], exists_append_iff.mpr (.inl still)⟩
    · refine ⟨?_, exists_append_iff.mpr (.inr ⟨rfl, rfl⟩)⟩
      rw [← aligned]
      exact List.getElem?_concat_length

theorem Tracked.step_iff (tracked : server.Tracked) (aligned : server.Aligned)
    (stepped : step config server event = some next) :
    next.Aligned ∧ (next.Tracked ↔ ¬server.Collides event) := by
  have ⟨tcp, udp⟩ := tracked
  have quiet {other : TUNServer} (lengths : other.Aligned)
      (tcpQuiet : server.tcpTable.Quiet other.tcpTable)
      (udpQuiet : server.udpTable.Quiet other.udpTable) :
      other.Aligned ∧ (other.Tracked ↔ ¬False) :=
    ⟨lengths, iff_of_true ⟨tcp.quiet tcpQuiet, udp.quiet udpQuiet⟩ id⟩
  have tcpSame := FlowTable.Quiet.refl server.tcpTable
  have udpSame := FlowTable.Quiet.refl server.udpTable
  have same := quiet aligned tcpSame udpSame
  have removed (goes : NatEntry → Bool) := @quiet (server.remove goes)
    (by simpa [Aligned, remove] using aligned) (server.quiet_remove goes).1
    (server.quiet_remove goes).2
  cases event with
  | packet bytes failure =>
    cases stepped
    unfold readPacket
    dsimp only
    split
    · exact same
    split
    · exact same
    · exact same
    · rename_i srcIP dstIP tcpData _
      have changed := (server.fill (config.readable bytes)).quiet_handleTCP srcIP dstIP tcpData
        failure
      obtain ⟨_, _, _, _, kept⟩ := (server.fill (config.readable bytes)).handleTCP_eq srcIP dstIP
        tcpData failure
      rw [kept] at changed ⊢
      exact quiet aligned changed udpSame
    · unfold handleUDP
      dsimp only
      split
      · exact same
      split
      · exact quiet (by rw [Aligned, write_conns, length_modify]; exact aligned) tcpSame
          (quiet_write (funext fun other => touch_conn ..) rfl (write_conns ..))
      · exact same
  | tcpDialed index succeeded =>
    simp only [step, tcpDialed] at stepped
    split at stepped
    · cases stepped
    rename_i key isn found
    cases succeeded with
    | false =>
      cases stepped
      exact same
    | true =>
      cases stepped
      simp only [Collides, found, Option.some.injEq, exists_eq_left']
      refine ⟨aligned, (and_iff_left udp).trans
        (tcp.entered_iff ?_ (fun other => entry_update ..) ?_)⟩
      · rintro other ⟨conn, held, _⟩
        exact Nat.lt_irrefl _ (List.getElem?_eq_some_iff.mp held).1
      · intro other number
        refine exists_append_iff.trans (or_congr_right (and_congr_left fun _ => ?_))
        exact ⟨fun both => both.1.symm, fun own => ⟨own.symm, rfl⟩⟩
  | tcpEnded index =>
    simp only [step, tcpEnded] at stepped
    split at stepped
    · cases stepped
    rename_i conn key found
    cases stepped
    simp only [Collides, found, Option.some.injEq, exists_eq_left']
    exact ⟨aligned, (and_iff_left udp).trans (tcp.left_iff (server.tearDownTCP_spec key conn).1
      fun other number => server.tearDownTCP_isOpen key other conn number)⟩
  | udpDialed index link =>
    simp only [step, udpDialed] at stepped
    split at stepped
    · cases stepped
    rename_i pending found
    split at stepped
    · cases stepped
    cases link with
    | none =>
      cases stepped
      exact same
    | some link =>
      cases stepped
      simp only [Collides, found, Option.some.injEq, exists_eq_left']
      refine ⟨by simpa [Aligned, Wire.dial] using aligned,
        (and_iff_right tcp).trans (udp.entered_iff ?_ (fun other => entry_update ..)
          fun other number => udpDialed_isOpen aligned link pending.key other number)⟩
      rintro other ⟨_, conn, held, _⟩
      exact Nat.lt_irrefl _ (List.getElem?_eq_some_iff.mp held).1
  | udpWritten index =>
    simp only [step, udpWritten] at stepped
    split at stepped
    · cases stepped
    split at stepped <;> cases stepped
    exact quiet (by rw [Aligned, write_conns, length_modify]; exact aligned) tcpSame
      (quiet_write rfl rfl (write_conns ..))
  | udpEnded index =>
    simp only [step, udpEnded] at stepped
    split at stepped
    · cases stepped
    rename_i conn key found
    cases stepped
    simp only [Collides, found, Option.some.injEq, exists_eq_left']
    refine ⟨by simpa [Aligned, Wire.close] using aligned,
      (and_iff_right tcp).trans (udp.left_iff (fun other => entry_update ..)
        fun other number => ?_)⟩
    exact (and_congr_right fun _ => exists_modify_iff fun _ => Bool.noConfusion).trans
      and_assoc.symm
  | cleanup =>
    cases stepped
    split
    · exact same
    · exact removed _
  | elapse duration =>
    cases stepped
    exact same
  | close =>
    cases stepped
    split
    · exact same
    · exact removed fun _ => true

/-- Along every run every open connection is the one that its flow has in the table, so that no flow
has two, exactly when no dial completes beside an open connection and no reader ends while its flow
has another one. -/
theorem table_consistent_iff_never_collides (config : TUNConfig) (events : List TUNEvent) :
    ((machine config).Always Tracked (start config) events ↔
        (machine config).Never Collides (start config) events) ∧
      ∀ server : TUNServer, server.Tracked → ∀ key left right,
        (server.tcpTable.isOpen key left → server.tcpTable.isOpen key right → left = right) ∧
          (server.udpTable.isOpen key left → server.udpTable.isOpen key right → left = right) := by
  constructor
  · exact Machine.always_iff_never Aligned
      (fun aligned tracked stepped => tracked.step_iff aligned stepped) events rfl ⟨nofun, nofun⟩
  · intro server tracked key left right
    exact ⟨fun first second => tracked.1.unique first second,
      fun first second => tracked.2.unique first second⟩

def sampleTwins : List TUNEvent :=
  [sampleRead (sampleSegment 0 tcpFlagSYN []), sampleRead (sampleSegment 0 tcpFlagSYN []),
    .tcpDialed 0 true, .tcpDialed 0 true]

/-- Both connections are open; and when the reader of the first ends, the second has no entry
any more. -/
theorem sample_table_inconsistent :
    ((machine sampleConfig).run (start sampleConfig) sampleTwins).map
        (fun server => (server.tcpConns.map TCPConn.closed, server.connOf sampleKey)) =
      some ([false, false], some 1) ∧
    ((machine sampleConfig).run (start sampleConfig) (sampleTwins ++ [.tcpEnded 0])).map
        (fun server => (server.tcpConns.map TCPConn.closed, server.connOf sampleKey)) =
      some ([true, false], none) := by
  decide +kernel

/-! ## The first datagram of a flow -/

/-- What the goroutines for first datagrams would write now is what their packets brought. -/
def Held (server : TUNServer) : Prop :=
  ∀ pending ∈ server.pendingUDP, server.slice pending = pending.payload

/-- A packet is read over the slice of a goroutine and changes it. -/
def Overwrites (config : TUNConfig) (server : TUNServer) : TUNEvent → Prop
  | .packet bytes _ => server.closed = false ∧ ∃ pending ∈ server.pendingUDP,
      (server.fill (config.readable bytes)).slice pending ≠ server.slice pending
  | _ => False

/-- A goroutine writes something else than its packet brought. -/
def Garbles (server : TUNServer) : TUNEvent → Prop
  | .udpWritten index => ∃ pending, server.pendingUDP[index]? = some pending ∧
      server.slice pending ≠ pending.payload
  | _ => False

theorem ingress_udp {pkt udpData : List UInt8} {srcIP dstIP : Addr} {start : Nat}
    (carried : ingress config pkt = .udp srcIP dstIP start udpData) :
    (pkt.drop start).take udpData.length = udpData := by
  have ofProto {proto : UInt8} {src dst : Addr} {offset : Nat} {payload : List UInt8}
      (same : Ingress.ofProto proto src dst offset payload = .udp srcIP dstIP start udpData) :
      offset = start ∧ payload = udpData := by
    rw [Ingress.ofProto] at same
    split at same
    · cases same
    split at same <;> cases same
    exact ⟨rfl, rfl⟩
  simp only [ingress, handleIPv4, handleIPv6] at carried
  repeat' split at carried
  all_goals
    first
    | cases carried
    | obtain ⟨rfl, rfl⟩ := ofProto carried
      simp [drop_take]

theorem slice_read {pkt rest data : List UInt8} {start : Nat} (long : 8 ≤ data.length)
    (whole : (pkt.drop start).take data.length = data) :
    ((pkt ++ rest).drop (start + 8)).take (data.drop 8).length = data.drop 8 := by
  have fits := congrArg List.length whole
  rw [length_take, length_drop] at fits
  rw [← drop_drop, length_drop, ← drop_take, drop_append_of_le_length (by omega),
    take_append_of_le_length (by rw [length_drop]; omega), whole]

theorem Held.step_iff (held : server.Held) (stepped : step config server event = some next) :
    next.Held ↔ ¬Overwrites config server event := by
  have same : server.Held ↔ ¬False := iff_of_true held id
  cases event with
  | packet bytes failure =>
    cases stepped
    unfold readPacket Overwrites
    dsimp only
    have filled : (server.fill (config.readable bytes)).Held ↔ ¬∃ pending ∈ server.pendingUDP,
        (server.fill (config.readable bytes)).slice pending ≠ server.slice pending := by
      simp only [not_exists, not_and, not_not]
      exact forall₂_congr fun pending listed => by rw [held pending listed]
    split
    · rename_i shut
      exact iff_of_true held fun hit => by rw [shut] at hit; cases hit.1
    · rename_i opened
      rw [and_iff_right (Bool.eq_false_iff.mpr opened), ← filled]
      split
      · exact Iff.rfl
      · exact Iff.rfl
      · rename_i srcIP dstIP tcpData _
        obtain ⟨_, _, _, _, kept⟩ := (server.fill (config.readable bytes)).handleTCP_eq srcIP dstIP
          tcpData failure
        rw [kept]
        exact Iff.rfl
      · rename_i srcIP dstIP start udpData carried
        unfold handleUDP
        dsimp only
        split
        · exact Iff.rfl
        split
        · exact Iff.rfl
        · refine forall_mem_append.trans (and_iff_left (forall_mem_singleton.mpr ?_))
          exact slice_read (by omega) (ingress_udp carried)
  | udpDialed index link =>
    simp only [step, udpDialed] at stepped
    split at stepped
    · cases stepped
    rename_i pending found
    split at stepped
    · cases stepped
    split at stepped <;> cases stepped
    · exact iff_of_true (fun other listed => held other (mem_of_mem_eraseIdx listed)) id
    · refine iff_of_true (fun other listed => ?_) id
      rcases mem_or_eq_of_mem_set listed with older | rfl
      · exact held other older
      · exact held pending (mem_of_getElem? found)
  | udpWritten index =>
    simp only [step, udpWritten] at stepped
    split at stepped
    · cases stepped
    split at stepped <;> cases stepped
    exact iff_of_true (fun other listed => held other (mem_of_mem_eraseIdx listed)) id
  | tcpDialed index succeeded =>
    simp only [step, tcpDialed] at stepped
    split at stepped
    · cases stepped
    · split at stepped <;> cases stepped <;> exact same
  | tcpEnded index =>
    simp only [step, tcpEnded] at stepped
    split at stepped <;> cases stepped
    exact same
  | udpEnded index =>
    simp only [step, udpEnded] at stepped
    split at stepped <;> cases stepped
    exact same
  | cleanup | close =>
    cases stepped
    split <;> exact same
  | elapse duration =>
    cases stepped
    exact same

/-- Along every run the goroutines for first datagrams can write what their packets brought exactly
when no packet is read over the slice of one with other bytes; and then they write it. -/
theorem first_datagrams_intact_iff_not_overwritten (config : TUNConfig) (events : List TUNEvent) :
    ((machine config).Always Held (start config) events ↔
        (machine config).Never (Overwrites config) (start config) events) ∧
      ((machine config).Never (Overwrites config) (start config) events →
        (machine config).Never Garbles (start config) events) := by
  have exactly : (machine config).Always Held (start config) events ↔
      (machine config).Never (Overwrites config) (start config) events :=
    Machine.always_iff_never (fun _ => True)
      (fun _ held stepped => ⟨trivial, held.step_iff stepped⟩) events trivial nofun
  refine ⟨exactly, fun never before event after reached next split ran _ garbles => ?_⟩
  have held := exactly.mpr never before (event :: after) reached split ran
  cases event with
  | udpWritten index =>
    have ⟨pending, found, changed⟩ := garbles
    exact changed (held pending (mem_of_getElem? found))
  | _ => exact garbles

/-- A second packet is read before the dial for the first completes, and its payload is written for
both. -/
theorem sample_first_datagram_lost :
    TUNServer.delivery [queryRead 1000 (lit "one"), queryRead 1001 (lit "two"),
        .udpDialed 0 (some .direct), .udpWritten 0, .udpDialed 0 (some .direct), .udpWritten 0]
        1000 = some ([lit "one"], [lit "two"]) := by
  decide +kernel

end TUNServer

end Shuttle.Proxy
