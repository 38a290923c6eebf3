import Shuttle.Go.Text

/-!
# The migrator of connections

A migration marks every listed connection as draining, and the drain loop closes and delists those
that are idle or have drained for too long. Until the migrator is closed a connection that was
tracked is listed or draining already, so the next migration leaves it draining.
-/

namespace Shuttle.Selector

open Shuttle.Go List

structure MigrateConn where
  conn : Nat
  transportName : GoString
  activeStreams : Int32
  draining : Bool
  drainStarted : Option Int
deriving DecidableEq, Repr

/-- The migrator: every wrapper made, and which of them are in its list. -/
structure Migrator where
  tracked : List MigrateConn
  connections : List Nat
  drainTimeout : Int
  closed : Bool

namespace Migrator

/-- A new migrator; no drain timeout selects 30 seconds. -/
def new (drainTimeout : Int) : Migrator where
  tracked := []
  connections := []
  drainTimeout := if drainTimeout ≤ 0 then 30000000000 else drainTimeout
  closed := false

variable (migrator : Migrator)

def track (conn : Nat) (transportName : GoString) : Migrator :=
  { migrator with
    tracked := migrator.tracked ++ [⟨conn, transportName, 0, false, none⟩]
    connections := migrator.connections ++ [migrator.tracked.length] }

variable (now : Int)

def startDraining (tc : MigrateConn) : MigrateConn :=
  if tc.draining then tc else { tc with draining := true, drainStarted := some now }

def migrate : Migrator :=
  { migrator with
    tracked := migrator.tracked.mapIdx fun wrapper tc =>
      if wrapper ∈ migrator.connections then startDraining now tc else tc }

/-- A draining connection is idle or has drained for too long. -/
def drained (tc : MigrateConn) : Bool :=
  tc.draining && (tc.activeStreams == 0 ||
    tc.drainStarted.any fun started => migrator.drainTimeout < now - started)

/-- Close the drained connections and take them off the list. -/
def drainIdle : Migrator :=
  { migrator with
    connections := migrator.connections.filter fun wrapper =>
      !(migrator.tracked[wrapper]?.any (migrator.drained now)) }

def wrapStream (wrapper : Nat) : Option Migrator :=
  match migrator.tracked[wrapper]? with
  | none => none
  | some tc =>
    if tc.draining then none
    else some { migrator with
      tracked := migrator.tracked.set wrapper { tc with activeStreams := tc.activeStreams + 1 } }

def closeStream (wrapper : Nat) : Option Migrator :=
  match migrator.tracked[wrapper]? with
  | none => none
  | some tc =>
    if tc.activeStreams = 0 then none
    else some { migrator with
      tracked := migrator.tracked.set wrapper { tc with activeStreams := tc.activeStreams - 1 } }

def close : Migrator := { migrator with connections := [], closed := true }

def conns : List Nat := migrator.tracked.map MigrateConn.conn

/-- Until the migrator is closed, every wrapper is draining or listed. -/
def Listed : Prop :=
  migrator.closed = false → ∀ wrapper tc, migrator.tracked[wrapper]? = some tc →
    tc.draining = true ∨ wrapper ∈ migrator.connections

end Migrator

/-! ## What a migrator keeps -/

namespace Migrator

variable {migrator : Migrator}

/-- No wrapper changes its connection, and the listing is kept. -/
structure Keeps (before after : Migrator) : Prop where
  conns : after.conns = before.conns
  listed : before.Listed → after.Listed

theorem new_listed (drainTimeout : Int) : (new drainTimeout).Listed := by
  intro _ wrapper tc found
  exact absurd found (by simp [new])

theorem conns_track (conn : Nat) (name : GoString) :
    (migrator.track conn name).conns = migrator.conns ++ [conn] := by
  rw [conns, track, map_append]
  rfl

theorem track_listed (listed : migrator.Listed) (conn : Nat) (name : GoString) :
    (migrator.track conn name).Listed := by
  intro isOpen wrapper tc found
  rw [track] at found
  by_cases old : wrapper < migrator.tracked.length
  · rw [List.getElem?_append_left old] at found
    rcases listed isOpen wrapper tc found with draining | present
    · exact .inl draining
    · exact .inr (mem_append_left _ present)
  · have := (List.getElem?_eq_some_iff.mp found).1
    rw [length_append, length_singleton] at this
    have last : wrapper = migrator.tracked.length := by omega
    exact .inr (mem_append_right _ (mem_singleton.mpr last))

variable (now : Int)

theorem startDraining_conn (tc : MigrateConn) : (startDraining now tc).conn = tc.conn := by
  unfold startDraining
  split <;> rfl

theorem startDraining_draining (tc : MigrateConn) : (startDraining now tc).draining = true := by
  unfold startDraining
  split
  · assumption
  · rfl

variable {wrapper : Nat}

theorem migrate_get {now : Int} :
    (migrator.migrate now).tracked[wrapper]? = (migrator.tracked[wrapper]?).map fun tc =>
      if wrapper ∈ migrator.connections then startDraining now tc else tc := by
  rw [migrate, List.getElem?_mapIdx]

theorem migrate_keeps : Keeps migrator (migrator.migrate now) where
  conns := by
    apply ext_getElem?
    intro wrapper
    rw [conns, conns, List.getElem?_map, migrate_get, List.getElem?_map, Option.map_map]
    congr 1
    funext tc
    split
    · exact startDraining_conn now tc
    · rfl
  listed := by
    intro listed isOpen wrapper tc found
    rw [migrate_get] at found
    have ⟨before, present, changed⟩ := Option.map_eq_some_iff.mp found
    by_cases isListed : wrapper ∈ migrator.connections
    · exact .inr isListed
    · rw [if_neg isListed] at changed
      exact .inl (changed ▸ (listed isOpen wrapper before present).resolve_right isListed)

theorem migrate_drains (listed : migrator.Listed) (isOpen : migrator.closed = false)
    {conn : Nat} (found : migrator.conns[wrapper]? = some conn) (now : Int) :
    ∃ tc ∈ (migrator.migrate now).tracked, tc.conn = conn ∧ tc.draining = true := by
  rw [conns, List.getElem?_map] at found
  have ⟨tc, present, same⟩ := Option.map_eq_some_iff.mp found
  have after := @migrate_get migrator wrapper now
  rw [present, Option.map_some] at after
  refine ⟨_, mem_of_getElem? after, ?_⟩
  by_cases isListed : wrapper ∈ migrator.connections
  · rw [if_pos isListed]
    exact ⟨(startDraining_conn now tc).trans same, startDraining_draining now tc⟩
  · rw [if_neg isListed]
    exact ⟨same, (listed isOpen wrapper tc present).resolve_right isListed⟩

theorem drainIdle_keeps : Keeps migrator (migrator.drainIdle now) where
  conns := rfl
  listed := by
    intro listed isOpen wrapper tc found
    have before : migrator.tracked[wrapper]? = some tc := found
    by_cases draining : tc.draining = true
    · exact .inl draining
    have present := (listed isOpen wrapper tc before).resolve_left draining
    refine .inr (mem_filter.mpr ⟨present, ?_⟩)
    rw [before]
    simp [drained, draining]

theorem set_keeps {tc next : MigrateConn}
    (found : migrator.tracked[wrapper]? = some tc) (conn : next.conn = tc.conn)
    (draining : next.draining = tc.draining) :
    Keeps migrator { migrator with tracked := migrator.tracked.set wrapper next } where
  conns := by
    have ⟨inside, same⟩ := List.getElem?_eq_some_iff.mp found
    rw [conns, conns, map_set, conn, ← map_set, ← same, set_getElem_self]
  listed := by
    intro listed isOpen other changed present
    rw [List.getElem?_set] at present
    split at present
    · rename_i same
      subst same
      split at present
      · rw [← Option.some.inj present, draining]
        exact listed isOpen wrapper tc found
      · cases present
    · exact listed isOpen other changed present

theorem wrapStream_keeps {next : Migrator}
    (wrapped : migrator.wrapStream wrapper = some next) : Keeps migrator next := by
  unfold wrapStream at wrapped
  split at wrapped
  · cases wrapped
  rename_i tc found
  split at wrapped <;> cases wrapped
  exact set_keeps found rfl rfl

theorem closeStream_keeps {next : Migrator}
    (closed : migrator.closeStream wrapper = some next) : Keeps migrator next := by
  unfold closeStream at closed
  split at closed
  · cases closed
  rename_i tc found
  split at closed <;> cases closed
  exact set_keeps found rfl rfl

theorem close_keeps : Keeps migrator migrator.close where
  conns := rfl
  listed := fun _ isOpen => absurd isOpen (by simp [close])

end Migrator

end Shuttle.Selector
