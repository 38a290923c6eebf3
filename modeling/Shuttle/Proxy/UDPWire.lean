import Shuttle.Proxy.UDPFrame
import Shuttle.Server.Handler

/-!
# Where datagrams arrive

For the network "udp" the dialer returns a direct socket, which sends each write as one datagram, or
a proxy stream to the server, which reads frames and sends the payload of each. Both are taken to
lose and reorder nothing. A stream whose relay has ended, at its first bad frame or for another
reason, brings nothing any more.
-/

namespace Shuttle.Proxy

open List

/-! ## Connections -/

inductive Link where
  | direct
  | proxied
deriving DecidableEq

structure UDPConn where
  link : Link
  received : List UInt8
  closed : Bool

namespace UDPConn

def dialed (link : Link) : UDPConn := ⟨link, [], false⟩

/-- The datagrams that a write brings to the target. -/
def reaches (conn : UDPConn) (bytes : List UInt8) : List (List UInt8) :=
  if conn.closed then []
  else
    match conn.link with
    | .direct => [bytes]
    | .proxied => (relayed (conn.received ++ bytes)).drop (relayed conn.received).length

def write (conn : UDPConn) (bytes : List UInt8) : UDPConn :=
  if conn.closed then conn else { conn with received := conn.received ++ bytes }

/-- What was written to a stream are whole frames: the relay reads on behind them. -/
def Whole (conn : UDPConn) : Prop :=
  ∀ tail, relayed (conn.received ++ tail) = relayed conn.received ++ relayed tail

variable {conn : UDPConn} {bytes : List UInt8}

theorem reaches_closed (closed : conn.closed = true) : conn.reaches bytes = [] := by
  rw [reaches, if_pos closed]

theorem reaches_direct (opened : conn.closed = false) (direct : conn.link = .direct) :
    conn.reaches bytes = [bytes] := by
  rw [reaches, opened, if_neg Bool.false_ne_true, direct]

theorem reaches_proxied (opened : conn.closed = false) (proxied : conn.link = .proxied)
    (whole : conn.Whole) : conn.reaches bytes = relayed bytes := by
  rw [reaches, opened, if_neg Bool.false_ne_true, proxied]
  rw [whole, drop_left]

theorem whole_of_received_nil (fresh : conn.received = []) : conn.Whole := by
  intro tail
  rw [fresh, relayed_nil, nil_append, nil_append]

theorem Whole.write (whole : conn.Whole)
    (frame : ∀ tail, relayed (bytes ++ tail) = relayed bytes ++ relayed tail) :
    (conn.write bytes).Whole := by
  rw [UDPConn.write]
  split
  · exact whole
  · intro tail
    rw [append_assoc, whole, frame, whole, append_assoc]

theorem write_frame :
    (conn.write bytes).link = conn.link ∧ (conn.write bytes).closed = conn.closed := by
  rw [write]
  split <;> exact ⟨rfl, rfl⟩

end UDPConn

/-! ## Logs -/

abbrev Log (κ : Type) := List (κ × List UInt8)

section Flows

variable {κ : Type} [DecidableEq κ]

def ofFlow (flow : κ) (log : Log κ) : List (List UInt8) :=
  (log.filter fun entry => entry.1 = flow).map Prod.snd

theorem ofFlow_append (flow : κ) (earlier later : Log κ) :
    ofFlow flow (earlier ++ later) = ofFlow flow earlier ++ ofFlow flow later := by
  rw [ofFlow, filter_append, map_append]
  rfl

theorem ofFlow_same (flow : κ) (datagrams : List (List UInt8)) :
    ofFlow flow (datagrams.map fun datagram => (flow, datagram)) = datagrams := by
  rw [ofFlow, filter_eq_self.mpr, map_map]
  · exact map_id _
  · intro entry member
    have ⟨_, _, same⟩ := mem_map.mp member
    rw [← same]
    exact decide_eq_true rfl

theorem ofFlow_other {flow other : κ} (apart : other ≠ flow) (datagrams : List (List UInt8)) :
    ofFlow flow (datagrams.map fun datagram => (other, datagram)) = [] := by
  rw [ofFlow, filter_eq_nil_iff.mpr]
  · rfl
  · intro entry member
    have ⟨_, _, same⟩ := mem_map.mp member
    rw [← same, decide_eq_true_iff]
    exact apart

theorem balanced_iff (flow : κ) {sent reached : Log κ} {waiting waits : κ → List (List UInt8)}
    (balanced : ∀ other, ofFlow other reached ++ waiting other = ofFlow other sent)
    (elsewhere : ∀ other, other ≠ flow → waits other = waiting other)
    (new arrived : List (List UInt8)) :
    (∀ other, ofFlow other (reached ++ arrived.map fun datagram => (flow, datagram)) ++
        waits other = ofFlow other (sent ++ new.map fun datagram => (flow, datagram))) ↔
      arrived ++ waits flow = waiting flow ++ new := by
  constructor
  · intro next
    have same := next flow
    rw [ofFlow_append, ofFlow_append, ofFlow_same, ofFlow_same, ← balanced flow, append_assoc,
      append_assoc] at same
    exact append_cancel_left same
  · intro step other
    rw [ofFlow_append, ofFlow_append, ← balanced other]
    by_cases same : other = flow
    · rw [same, ofFlow_same, ofFlow_same, append_assoc, append_assoc, step]
    · have apart : flow ≠ other := fun equal => same equal.symm
      rw [ofFlow_other apart, ofFlow_other apart, append_nil, append_nil, elsewhere other same]

end Flows

structure Wire (κ : Type) where
  conns : List UDPConn
  sent : Log κ
  reached : Log κ

namespace Wire

variable {κ : Type}

def empty : Wire κ := ⟨[], [], []⟩

variable (wire : Wire κ)

def send (flow : κ) (payload : List UInt8) : Wire κ :=
  { wire with sent := wire.sent ++ [(flow, payload)] }

def dial (link : Link) : Wire κ :=
  { wire with conns := wire.conns ++ [.dialed link] }

def close (index : Nat) : Wire κ :=
  { wire with conns := wire.conns.modify index fun conn => { conn with closed := true } }

/-- The datagrams that a write to one of the connections brings to the target. -/
def brings (index : Nat) (bytes : List UInt8) : List (List UInt8) :=
  (wire.conns[index]?.map fun conn => conn.reaches bytes).getD []

def write (wire : Wire κ) (flow : κ) (index : Nat) (bytes : List UInt8) : Wire κ :=
  match wire.conns[index]? with
  | none => wire
  | some conn =>
    { wire with
      conns := wire.conns.set index (conn.write bytes)
      reached := wire.reached ++ (conn.reaches bytes).map fun datagram => (flow, datagram) }

theorem brings_none {wire : Wire κ} {index : Nat} (missing : wire.conns[index]? = none)
    {bytes : List UInt8} : wire.brings index bytes = [] := by
  rw [brings, missing]
  rfl

theorem brings_some {wire : Wire κ} {index : Nat} {conn : UDPConn}
    (found : wire.conns[index]? = some conn) {bytes : List UInt8} :
    wire.brings index bytes = conn.reaches bytes := by
  rw [brings, found]
  rfl

theorem write_log (wire : Wire κ) (flow : κ) (index : Nat) (bytes : List UInt8) :
    (wire.write flow index bytes).sent = wire.sent ∧
      (wire.write flow index bytes).reached =
        wire.reached ++ (wire.brings index bytes).map fun datagram => (flow, datagram) := by
  rw [write, brings]
  cases wire.conns[index]? with
  | none => exact ⟨rfl, (append_nil _).symm⟩
  | some conn => exact ⟨rfl, rfl⟩

end Wire

end Shuttle.Proxy
