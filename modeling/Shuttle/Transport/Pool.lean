import Mathlib.Data.List.Basic

/-!
# The pool of warm connections

A pool dials one transport ahead of time, keeps the connections for a while and hands out the one
used most recently. What it holds, it was given.
-/

namespace Shuttle.Selector

open List

structure IdleConn where
  conn : Nat
  idleSince : Int

/-- Idle connections of one transport; the last is the one used most recently. -/
structure ConnPool (τ : Type) where
  transport : τ
  idle : List IdleConn
  maxIdle : Int
  idleTTL : Int
  closed : Bool

namespace ConnPool

variable {τ : Type}

/-- A new pool, with a size of four and a minute of idle time by default. -/
def new (transport : τ) (maxIdle idleTTL : Int) : ConnPool τ where
  transport := transport
  idle := []
  maxIdle := if maxIdle ≤ 0 then 4 else maxIdle
  idleTTL := if idleTTL ≤ 0 then 60000000000 else idleTTL
  closed := false

variable (pool : ConnPool τ)

def expired (now : Int) (idle : IdleConn) : Bool :=
  pool.idleTTL < now - idle.idleSince

/-- Drop expired connections from the end until one is found. -/
def popIdle (pool : ConnPool τ) (now : Int) : List IdleConn → Option Nat × List IdleConn
  | [] => (none, [])
  | last :: rest => if pool.expired now last then popIdle pool now rest else (some last.conn, rest)

def take (now : Int) : Option Nat × ConnPool τ :=
  let (found, rest) := pool.popIdle now pool.idle.reverse
  (found, { pool with idle := rest.reverse })

/-- Keep a connection unless the pool is closed or full. -/
def put (conn : Nat) (now : Int) : ConnPool τ :=
  if pool.closed ∨ pool.maxIdle ≤ pool.idle.length then pool
  else { pool with idle := pool.idle ++ [⟨conn, now⟩] }

def evictExpired (now : Int) : ConnPool τ :=
  if pool.closed then pool
  else { pool with idle := pool.idle.filter fun idle => !pool.expired now idle }

def close : ConnPool τ := { pool with idle := [], closed := true }

end ConnPool

/-! ## What the pool hands out -/

namespace ConnPool

variable {τ : Type} {pool : ConnPool τ}

theorem popIdle_mem (now : Int) (idle : List IdleConn) :
    (∀ conn, (pool.popIdle now idle).1 = some conn → ∃ entry ∈ idle, entry.conn = conn) ∧
      ∀ entry ∈ (pool.popIdle now idle).2, entry ∈ idle := by
  induction idle with
  | nil => exact ⟨fun conn found => absurd found (by simp [popIdle]), fun entry present => present⟩
  | cons last rest ih =>
    rw [popIdle]
    split
    · constructor
      · intro conn found
        have ⟨entry, present, same⟩ := ih.1 conn found
        exact ⟨entry, mem_cons_of_mem _ present, same⟩
      · intro entry present
        exact mem_cons_of_mem _ (ih.2 entry present)
    · refine ⟨fun conn found => ?_, fun entry present => mem_cons_of_mem _ present⟩
      exact ⟨last, mem_cons_self, Option.some.inj found⟩

/-- A connection is found exactly if one has not expired. -/
theorem popIdle_isSome_iff (now : Int) (idle : List IdleConn) :
    (pool.popIdle now idle).1.isSome ↔ ∃ entry ∈ idle, pool.expired now entry = false := by
  induction idle with
  | nil => simp [popIdle]
  | cons last rest ih =>
    rw [popIdle]
    cases expired : pool.expired now last with
    | true => simpa [expired] using ih
    | false => exact iff_of_true rfl ⟨last, mem_cons_self, expired⟩

structure Holds (pool : ConnPool τ) (transport : τ) (property : Nat → Prop) : Prop where
  transport : pool.transport = transport
  idle : ∀ entry ∈ pool.idle, property entry.conn

variable {transport : τ} {property : Nat → Prop}

section

variable (holds : pool.Holds transport property)

include holds

theorem Holds.take (now : Int) :
    (∀ conn, (pool.take now).1 = some conn → property conn) ∧
      (pool.take now).2.Holds transport property := by
  have ⟨popped, left⟩ := @popIdle_mem τ pool now pool.idle.reverse
  refine ⟨fun conn found => ?_, holds.transport, fun entry present => ?_⟩
  · have ⟨entry, present, same⟩ := popped conn found
    exact same ▸ holds.idle entry (mem_reverse.mp present)
  · exact holds.idle entry (mem_reverse.mp (left entry (mem_reverse.mp present)))

theorem Holds.put {conn : Nat} (has : property conn)
    (now : Int) : (pool.put conn now).Holds transport property := by
  unfold ConnPool.put
  split
  · exact holds
  refine ⟨holds.transport, fun entry present => ?_⟩
  rcases mem_append.mp present with old | new
  · exact holds.idle entry old
  · rw [mem_singleton.mp new]
    exact has

theorem Holds.evictExpired (now : Int) : (pool.evictExpired now).Holds transport property := by
  unfold ConnPool.evictExpired
  split
  · exact holds
  · exact ⟨holds.transport, fun entry present => holds.idle entry (mem_filter.mp present).1⟩

theorem Holds.close : pool.close.Holds transport property :=
  ⟨holds.transport, nofun⟩

end

theorem new_holds (maxIdle idleTTL : Int) :
    (new transport maxIdle idleTTL).Holds transport property :=
  ⟨rfl, nofun⟩

theorem Holds.mono (holds : pool.Holds transport property) {other : Nat → Prop}
    (implies : ∀ conn, property conn → other conn) : pool.Holds transport other :=
  ⟨holds.transport, fun entry present => implies _ (holds.idle entry present)⟩

end ConnPool

end Shuttle.Selector
