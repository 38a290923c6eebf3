import Shuttle.Lib.Lists
import Shuttle.Transport.Draining

/-!
# Connections that outlive a migration

A `migratedConn` opens streams on the tracked connection it points to and dials a new one when
`WrapStream` finds that connection draining. The source looks at the flag only when the old
connection still opened a stream, and again behind a new dial, so a call fails exactly if it finds
its connection closed, if a migration falls between its last two looks, or if the dial fails. A
connection is open while it is listed.
-/

namespace Shuttle.Selector

open Shuttle.Go Shuttle.Lib List Migrator Draining

structure MigratedConn where
  /-- Number of the tracked connection it points to. -/
  tc : Nat
  /-- The call that has the lock around new dials. -/
  reconnMu : Option Nat

inductive OpenStage where
  /-- About to open a stream on the tracked connection. -/
  | calling
  /-- Has a stream and is about to load the draining flag. -/
  | opened
  /-- Found the flag unset and is about to count the stream. -/
  | loaded (stream : Nat)
  /-- Found the flag set and waits for the lock. -/
  | waiting
  /-- Has the lock and is about to look whether the connection was replaced. -/
  | locked
  | dialing
  /-- Tracked the new connection and is about to point to it. -/
  | tracked (wrapper : Nat)
  /-- About to open a stream on the new connection. -/
  | reopening (wrapper : Nat)
  /-- Has a stream on the new connection and is about to load its flag. -/
  | rewrapping (wrapper : Nat)
  /-- Found the new connection's flag unset and is about to count the stream. -/
  | reloaded (stream : Nat)
  | returned (ok : Bool)
deriving DecidableEq, Repr

/-- The connection that a call relies on while it has the lock. -/
def OpenStage.window : OpenStage → Option Nat
  | .tracked wrapper | .reopening wrapper | .rewrapping wrapper => some wrapper
  | _ => none

structure OpenCall where
  /-- Number of the connection it was called on. -/
  target : Nat
  stage : OpenStage
deriving DecidableEq, Repr

structure Migrated where
  draining : Draining
  conns : List MigratedConn
  calls : List OpenCall

inductive MigratedEvent where
  | handOut (conn : Nat) (transportName : GoString)
  | call (target : Nat)
  | advance (call : Nat)
  /-- The active transport returns a connection, or there is none or it fails. -/
  | dial (call : Nat) (result : Option (Nat × GoString))
  | swap (stream : Nat)
  | sub (stream : Nat)
  | migrate (now : Int)
  | drainIdle (now : Int)

def Draining.flag (draining : Draining) (wrapper : Nat) : Bool :=
  (draining.migrator.tracked[wrapper]?).any MigrateConn.draining

namespace Migrated

def new (drainTimeout : Int) : Migrated := ⟨.new drainTimeout, [], []⟩

variable (state : Migrated)

variable (index : Nat)

variable (call : OpenCall)

def setCall (stage : OpenStage) : Migrated :=
  { state with calls := state.calls.set index { call with stage := stage } }

def leave (conn : MigratedConn) (ok : Bool) : Migrated :=
  { state.setCall index call (.returned ok) with
    conns := state.conns.set call.target { conn with reconnMu := none } }

/-- `WrapStream` found the flag unset: its call goes on with the stream's number. -/
def load (state : Migrated) (index : Nat) (call : OpenCall) (wrapper : Nat)
    (stage : Nat → OpenStage) : Option Migrated :=
  (state.draining.step (.load wrapper)).map fun draining =>
    { state.setCall index call (stage state.draining.streams.length) with draining := draining }

def advance (conn : MigratedConn) : Option Migrated :=
  match call.stage with
  | .calling =>
    if conn.tc ∈ state.draining.migrator.connections then some (state.setCall index call .opened)
    else some (state.setCall index call (.returned false))
  | .opened =>
    if state.draining.flag conn.tc then some (state.setCall index call .waiting)
    else state.load index call conn.tc .loaded
  | .loaded stream =>
    (state.draining.step (.add stream)).map fun draining =>
      { state.setCall index call (.returned true) with draining := draining }
  | .waiting =>
    if conn.reconnMu = none then
      some { state.setCall index call .locked with
        conns := state.conns.set call.target { conn with reconnMu := some index } }
    else none
  | .locked =>
    if state.draining.flag conn.tc then some (state.setCall index call .dialing)
    else some (state.setCall index call (.reopening conn.tc))
  | .tracked wrapper =>
    some { state.setCall index call (.reopening wrapper) with
      conns := state.conns.set call.target { conn with tc := wrapper } }
  | .reopening wrapper =>
    if wrapper ∈ state.draining.migrator.connections then
      some (state.setCall index call (.rewrapping wrapper))
    else some (state.leave index call conn false)
  | .rewrapping wrapper =>
    if state.draining.flag wrapper then some (state.leave index call conn false)
    else state.load index call wrapper .reloaded
  | .reloaded stream =>
    (state.draining.step (.add stream)).map fun draining =>
      { state.leave index call conn true with draining := draining }
  | .dialing | .returned _ => none

def dialed (conn : MigratedConn) :
    Option (Nat × GoString) → Option Migrated
  | none => some (state.leave index call conn false)
  | some (fresh, name) =>
    (state.draining.step (.track fresh name)).map fun draining =>
      { state.setCall index call (.tracked state.draining.migrator.tracked.length) with
        draining := draining }

def withCall (body : OpenCall → MigratedConn → Option Migrated) : Option Migrated :=
  (state.calls[index]?).bind fun call =>
    (state.conns[call.target]?).bind fun conn => body call conn

def drain (event : DrainEvent) : Option Migrated :=
  (state.draining.step event).map fun draining => { state with draining := draining }

def step (state : Migrated) : MigratedEvent → Option Migrated
  | .handOut conn name =>
    (state.draining.step (.track conn name)).map fun draining =>
      { state with
        draining := draining
        conns := state.conns ++ [⟨state.draining.migrator.tracked.length, none⟩] }
  | .call target =>
    if target < state.conns.length then
      some { state with calls := state.calls ++ [⟨target, .calling⟩] }
    else none
  | .advance index => state.withCall index (state.advance index)
  | .dial index result =>
    state.withCall index fun call conn =>
      if call.stage = .dialing then state.dialed index call conn result else none
  | .swap stream => state.drain (.swap stream)
  | .sub stream => state.drain (.sub stream)
  | .migrate now => state.drain (.migrate now)
  | .drainIdle now => state.drain (.drainIdle now)

def machine : Machine Migrated MigratedEvent := ⟨step⟩

def Settled : Prop :=
  ∀ call ∈ state.calls, ∃ ok, call.stage = .returned ok

/-- A call finds the connection it points to closed, a migration falls between its last two looks at
the flag, or a dial fails. -/
def Disturbs : MigratedEvent → Prop
  | .advance index => ∃ call conn, state.calls[index]? = some call ∧ call.stage = .calling ∧
      state.conns[call.target]? = some conn ∧
      conn.tc ∉ state.draining.migrator.connections
  | .migrate _ => ∃ call ∈ state.calls, call.stage.window ≠ none
  | .dial _ result => result = none
  | _ => False

end Migrated

/-! ## What the migrator's steps keep -/

namespace Draining

structure Live (draining : Draining) (wrapper : Nat) : Prop where
  tracked : wrapper < draining.migrator.tracked.length
  fresh : draining.flag wrapper = false
  listed : wrapper ∈ draining.migrator.connections

/-- Draining connections go on draining, and the others stay as they are. -/
structure Quiet (before after : Draining) : Prop where
  flags : ∀ wrapper, before.flag wrapper = true → after.flag wrapper = true
  live : ∀ wrapper, before.Live wrapper → after.Live wrapper

variable {draining next : Draining}

theorem quiet_of_flags
    (size : next.migrator.tracked.length = draining.migrator.tracked.length)
    (flags : ∀ wrapper, next.flag wrapper = draining.flag wrapper)
    (listed : ∀ wrapper, draining.Live wrapper → wrapper ∈ next.migrator.connections) :
    Quiet draining next where
  flags wrapper set := (flags wrapper).trans set
  live wrapper live := ⟨size ▸ live.tracked, (flags wrapper).trans live.fresh, listed wrapper live⟩

theorem quiet_of_same (same : next.migrator = draining.migrator) : Quiet draining next := by
  refine quiet_of_flags (by rw [same]) (fun wrapper => ?_) fun wrapper live => same ▸ live.listed
  rw [flag, flag, same]

theorem quiet_count {wrapper : Nat} (change : Int32 → Int32)
    (same : next.migrator = draining.migrator.count wrapper change) : Quiet draining next := by
  apply quiet_of_flags
  · rw [same, Migrator.count, length_modify]
  · intro other
    rw [flag, flag, same, Migrator.count, List.getElem?_modify]
    cases draining.migrator.tracked[other]? with
    | none => rfl
    | some tc =>
      split <;> rfl
  · intro wrapper live
    rw [same]
    exact live.listed

theorem flag_track (draining : Draining) (conn : Nat) (name : GoString) {wrapper : Nat}
    (below : wrapper < draining.migrator.tracked.length) :
    flag { draining with migrator := draining.migrator.track conn name } wrapper =
      draining.flag wrapper := by
  rw [flag, flag, track, List.getElem?_append_left below]

theorem flag_track_new (draining : Draining) (conn : Nat) (name : GoString) :
    flag { draining with migrator := draining.migrator.track conn name }
      draining.migrator.tracked.length = false := by
  rw [flag, track, List.getElem?_append_right (Nat.le_refl _), Nat.sub_self]
  rfl

theorem length_track (migrator : Migrator) (conn : Nat) (name : GoString) :
    (migrator.track conn name).tracked.length = migrator.tracked.length + 1 := by
  rw [track, length_append, length_singleton]

theorem quiet_track (draining : Draining) (conn : Nat) (name : GoString) :
    Quiet draining { draining with migrator := draining.migrator.track conn name } ∧
      Live { draining with migrator := draining.migrator.track conn name }
        draining.migrator.tracked.length := by
  constructor
  · refine ⟨fun wrapper set => ?_, fun wrapper live => ⟨?_, ?_, ?_⟩⟩
    · rw [flag, Option.any_eq_true] at set
      have ⟨tc, found, isDraining⟩ := set
      rw [flag_track draining conn name (List.getElem?_eq_some_iff.mp found).1, flag, found]
      exact isDraining
    · rw [length_track]
      exact Nat.lt_succ_of_lt live.tracked
    · rw [flag_track draining conn name live.tracked]
      exact live.fresh
    · exact mem_append_left _ live.listed
  · refine ⟨?_, flag_track_new draining conn name, mem_append_right _ mem_cons_self⟩
    rw [length_track]
    exact Nat.lt_succ_self _

theorem quiet_drainIdle (now : Int) (same : next.migrator = draining.migrator.drainIdle now) :
    Quiet draining next := by
  apply quiet_of_flags
  · rw [same, drainIdle]
  · intro wrapper
    rw [flag, flag, same, drainIdle]
  · intro wrapper live
    rw [same]
    refine mem_filter.mpr ⟨live.listed, ?_⟩
    have fresh := live.fresh
    rw [flag] at fresh
    cases found : draining.migrator.tracked[wrapper]? with
    | none => rfl
    | some tc =>
      rw [found, Option.any_some] at fresh
      rw [Option.any_some, drained, fresh, Bool.false_and, Bool.not_false]

theorem flag_migrate (now : Int) (wrapper : Nat)
    (known : draining.Live wrapper ∨ draining.flag wrapper = true) :
    flag { draining with migrator := draining.migrator.migrate now } wrapper = true := by
  show ((draining.migrator.migrate now).tracked[wrapper]?).any MigrateConn.draining = true
  rw [migrate_get]
  rcases known with live | set
  · rw [List.getElem?_eq_getElem live.tracked, Option.map_some, if_pos live.listed]
    exact startDraining_draining now _
  · rw [flag, Option.any_eq_true] at set
    have ⟨tc, found, isDraining⟩ := set
    rw [found, Option.map_some]
    split
    · exact startDraining_draining now tc
    · exact isDraining

theorem quiet_step {event : DrainEvent} (stepped : draining.step event = some next)
    (calm : ∀ now, event ≠ .migrate now) (running : event ≠ .close) : Quiet draining next := by
  cases event with
  | track conn name =>
    cases stepped
    exact (quiet_track draining conn name).1
  | load wrapper =>
    rw [step] at stepped
    split at stepped
    · cases stepped
    split at stepped
    all_goals
      cases stepped
      exact quiet_of_same rfl
  | add stream =>
    rw [step] at stepped
    split at stepped <;> cases stepped
    exact quiet_count (· + 1) rfl
  | swap stream =>
    rw [step] at stepped
    split at stepped
    all_goals cases stepped
    all_goals exact quiet_of_same rfl
  | sub stream =>
    rw [step] at stepped
    split at stepped <;> cases stepped
    exact quiet_count (· - 1) rfl
  | migrate now => exact absurd rfl (calm now)
  | drainIdle now =>
    cases stepped
    exact quiet_drainIdle now rfl
  | close => exact absurd rfl running

def Known (draining : Draining) (wrapper : Nat) : Prop :=
  draining.Live wrapper ∨ draining.flag wrapper = true

theorem Known.live {wrapper : Nat} (known : draining.Known wrapper)
    (unset : draining.flag wrapper = false) : draining.Live wrapper :=
  known.resolve_right (by rw [unset]; exact Bool.false_ne_true)

theorem Quiet.known {wrapper : Nat} (quiet : Quiet draining next)
    (known : draining.Known wrapper) : next.Known wrapper :=
  known.imp (quiet.live wrapper) (quiet.flags wrapper)

end Draining

/-! ## What a step of the whole does -/

namespace Migrated

structure Sound (state : Migrated) : Prop where
  conns : ∀ conn ∈ state.conns, state.draining.Known conn.tc
  windows : ∀ call ∈ state.calls, ∀ wrapper, call.stage.window = some wrapper →
    state.draining.Known wrapper

def Smooth (state : Migrated) : Prop :=
  ∀ call ∈ state.calls, call.stage ≠ .returned false ∧
    ∀ wrapper, call.stage.window = some wrapper → state.draining.flag wrapper = false

structure Moves (state : Migrated) (event : MigratedEvent) (draining : Draining)
    (old stage : OpenStage) : Prop where
  enters : ∀ wrapper, stage.window = some wrapper →
    old.window = some wrapper ∨ draining.Live wrapper
  fails : stage = .returned false → state.Disturbs event ∨
    ∃ wrapper, old.window = some wrapper ∧ ¬state.draining.Live wrapper
  doomed : ∀ wrapper, old.window = some wrapper → state.draining.flag wrapper = true →
    stage = .returned false ∨ stage.window = some wrapper
  disturbed : state.Disturbs event → stage = .returned false
  running : old ≠ .returned false

inductive Effect (state : Migrated) (event : MigratedEvent) : Migrated → Prop where
  /-- A step of the migrator other than a migration. -/
  | drained {draining : Draining} (quiet : state.draining.Quiet draining)
      (calm : ¬state.Disturbs event) : Effect state event { state with draining := draining }
  | migrated (now : Int) (own : event = .migrate now) :
      Effect state event { state with
        draining := { state.draining with migrator := state.draining.migrator.migrate now } }
  | handed {draining : Draining} {wrapper : Nat} (quiet : state.draining.Quiet draining)
      (live : draining.Live wrapper) (calm : ¬state.Disturbs event) :
      Effect state event { state with
        draining := draining
        conns := state.conns ++ [⟨wrapper, none⟩] }
  | called (target : Nat) (calm : ¬state.Disturbs event) :
      Effect state event { state with calls := state.calls ++ [⟨target, .calling⟩] }
  | moved {index : Nat} {call : OpenCall} {stage : OpenStage} {draining : Draining}
      {conns : List MigratedConn} (found : state.calls[index]? = some call)
      (quiet : state.draining.Quiet draining)
      (pointed : ∀ conn ∈ conns, state.draining.Known conn.tc)
      (moves : Moves state event draining call.stage stage) :
      Effect state event
        ⟨draining, conns, state.calls.set index { call with stage := stage }⟩

variable {state next : Migrated} {event : MigratedEvent} {draining : Draining} {call : OpenCall}
  {old stage : OpenStage} {index wrapper : Nat} {conn : MigratedConn}

theorem smooth_of_quiet (quiet : state.draining.Quiet draining)
    (smooth : call.stage ≠ .returned false ∧
      ∀ wrapper, call.stage.window = some wrapper → draining.flag wrapper = false) :
    call.stage ≠ .returned false ∧
      ∀ wrapper, call.stage.window = some wrapper → state.draining.flag wrapper = false := by
  refine ⟨smooth.1, fun wrapper relies => ?_⟩
  rw [Bool.eq_false_iff]
  intro set
  have unset := smooth.2 wrapper relies
  rw [quiet.flags wrapper set] at unset
  cases unset

theorem Effect.sound (effect : Effect state event next) (sound : state.Sound) : next.Sound := by
  cases effect with
  | drained quiet =>
    exact ⟨fun conn listed => quiet.known (sound.conns conn listed),
      fun call listed wrapper relies => quiet.known (sound.windows call listed wrapper relies)⟩
  | migrated now =>
    refine ⟨fun conn listed => .inr ?_, fun call listed wrapper relies => .inr ?_⟩
    · exact flag_migrate now conn.tc (sound.conns conn listed)
    · exact flag_migrate now wrapper (sound.windows call listed wrapper relies)
  | handed quiet live =>
    refine ⟨fun conn listed => ?_, fun call listed wrapper relies => ?_⟩
    · rcases mem_append.mp listed with older | new
      · exact quiet.known (sound.conns conn older)
      · rw [mem_singleton.mp new]
        exact .inl live
    · exact quiet.known (sound.windows call listed wrapper relies)
  | called target =>
    refine ⟨sound.conns, fun call listed wrapper relies => ?_⟩
    rcases mem_append.mp listed with older | new
    · exact sound.windows call older wrapper relies
    · rw [mem_singleton.mp new] at relies
      cases relies
  | moved found quiet pointed moves =>
    refine ⟨fun conn listed => quiet.known (pointed conn listed),
      fun other listed wrapper relies => ?_⟩
    rcases mem_or_eq_of_mem_set listed with older | rfl
    · exact quiet.known (sound.windows other older wrapper relies)
    · rcases moves.enters wrapper relies with before | live
      · exact quiet.known (sound.windows _ (mem_of_getElem? found) wrapper before)
      · exact .inl live

theorem Smooth.quiet (smooth : state.Smooth) (sound : state.Sound)
    (quiet : state.draining.Quiet draining) :
    ∀ call ∈ state.calls, call.stage ≠ .returned false ∧
      ∀ wrapper, call.stage.window = some wrapper → draining.flag wrapper = false := by
  intro call listed
  have ⟨alive, unset⟩ := smooth call listed
  refine ⟨alive, fun wrapper relies => ?_⟩
  have known := sound.windows call listed wrapper relies
  exact (quiet.live wrapper (known.live (unset wrapper relies))).fresh

theorem Effect.smooth (effect : Effect state event next) (sound : state.Sound)
    (smooth : state.Smooth) (calm : ¬state.Disturbs event) : next.Smooth := by
  cases effect with
  | drained quiet | handed quiet => exact smooth.quiet sound quiet
  | migrated now own =>
    subst own
    intro call listed
    refine ⟨(smooth call listed).1, fun wrapper relies => absurd ⟨call, listed, ?_⟩ calm⟩
    rw [relies]
    exact Option.some_ne_none wrapper
  | called target =>
    intro call listed
    rcases mem_append.mp listed with older | new
    · exact smooth call older
    · rw [mem_singleton.mp new]
      exact ⟨nofun, nofun⟩
  | @moved index call stage draining conns found quiet pointed moves =>
    have kept := smooth.quiet sound quiet
    have present := mem_of_getElem? found
    have wasLive : ∀ wrapper, call.stage.window = some wrapper → state.draining.Live wrapper :=
      fun wrapper relies => (sound.windows call present wrapper relies).live
        ((smooth call present).2 wrapper relies)
    intro other listed
    rcases mem_or_eq_of_mem_set listed with older | rfl
    · exact kept other older
    refine ⟨fun failed => ?_, fun wrapper relies => ?_⟩
    · rcases moves.fails failed with disturbs | ⟨wrapper, relies, gone⟩
      · exact calm disturbs
      · exact gone (wasLive wrapper relies)
    · rcases moves.enters wrapper relies with before | live
      · exact (kept call present).2 wrapper before
      · exact live.fresh

theorem Effect.smooth_before (effect : Effect state event next) (sound : state.Sound)
    (smooth : next.Smooth) : state.Smooth ∧ ¬state.Disturbs event := by
  cases effect with
  | drained quiet calm | handed quiet _ calm =>
    exact ⟨fun call listed => smooth_of_quiet quiet (smooth call listed), calm⟩
  | migrated now own =>
    subst own
    have noWindow : ∀ call ∈ state.calls, call.stage.window = none := by
      intro call listed
      rw [Option.eq_none_iff_forall_ne_some]
      intro wrapper relies
      have unset := (smooth call listed).2 wrapper relies
      rw [flag_migrate now wrapper (sound.windows call listed wrapper relies)] at unset
      cases unset
    refine ⟨fun call listed => ⟨(smooth call listed).1, fun wrapper relies => ?_⟩, ?_⟩
    · rw [noWindow call listed] at relies
      cases relies
    · intro ⟨call, listed, relies⟩
      exact relies (noWindow call listed)
  | called target calm =>
    exact ⟨fun call listed => smooth call (mem_append_left _ listed), calm⟩
  | @moved index call stage draining conns found quiet pointed moves =>
    have inside : index < state.calls.length := (List.getElem?_eq_some_iff.mp found).1
    have ⟨alive, unset⟩ := smooth _ (mem_set inside { call with stage := stage })
    refine ⟨fun other listed => ?_, fun disturbs => alive (moves.disturbed disturbs)⟩
    rcases eq_or_mem_set found listed with rfl | kept
    · refine ⟨moves.running, fun wrapper relies => ?_⟩
      rw [Bool.eq_false_iff]
      intro set
      rcases moves.doomed wrapper relies set with failed | still
      · exact alive failed
      · have cleared := unset wrapper still
        rw [quiet.flags wrapper set] at cleared
        cases cleared
    · exact smooth_of_quiet quiet (smooth other kept)

theorem Moves.plain (calm : ¬state.Disturbs event)
    (before : old.window = none) (running : old ≠ .returned false)
    (after : stage.window = none) (alive : stage ≠ .returned false) :
    Moves state event draining old stage where
  enters _ relies := nomatch after.symm.trans relies
  fails failed := absurd failed alive
  doomed _ relies := nomatch before.symm.trans relies
  disturbed disturbs := absurd disturbs calm
  running := running

theorem Moves.relying (calm : ¬state.Disturbs event) (before : old.window = some wrapper)
    (after : stage.window = some wrapper) : Moves state event draining old stage where
  enters other relies := .inl (before.trans (after.symm.trans relies))
  fails failed := by
    rw [failed] at after
    cases after
  doomed other relies _ := .inr (after.trans (before.symm.trans relies))
  disturbed disturbs := absurd disturbs calm
  running failed := by
    rw [failed] at before
    cases before

theorem Moves.failing (reason : state.Disturbs event ∨
      ∃ wrapper, old.window = some wrapper ∧ ¬state.draining.Live wrapper)
    (running : old ≠ .returned false) : Moves state event draining old (.returned false) where
  enters _ relies := nomatch relies
  fails _ := reason
  doomed _ _ _ := .inl rfl
  disturbed _ := rfl
  running := running

theorem Sound.pointed (sound : state.Sound) {target : Nat}
    (known : state.draining.Known conn.tc) :
    ∀ other ∈ state.conns.set target conn, state.draining.Known other.tc := by
  intro other listed
  rcases mem_or_eq_of_mem_set listed with older | rfl
  · exact sound.conns other older
  · exact known

theorem not_disturbs_advance
    (found : state.calls[index]? = some call) (begun : call.stage ≠ .calling) :
    ¬state.Disturbs (.advance index) := by
  intro ⟨other, _, present, starts, _⟩
  cases Option.some.inj (found.symm.trans present)
  exact begun starts

theorem load_some {stage : Nat → OpenStage}
    (loaded : state.load index call wrapper stage = some next) :
    ∃ draining, state.draining.Quiet draining ∧
      next = ⟨draining, state.conns, state.calls.set index
        { call with stage := stage state.draining.streams.length }⟩ := by
  have ⟨draining, stepped, same⟩ := Option.map_eq_some_iff.mp loaded
  refine ⟨draining, quiet_step stepped (fun _ => nofun) ?_, same.symm⟩
  exact nofun

theorem add_quiet {stream : Nat}
    (stepped : state.draining.step (.add stream) = some draining) :
    state.draining.Quiet draining :=
  quiet_step stepped (fun _ => nofun) nofun

theorem advance_effect (sound : state.Sound)
    (found : state.calls[index]? = some call) (target : state.conns[call.target]? = some conn)
    (advanced : state.advance index call conn = some next) :
    Effect state (.advance index) next := by
  have known := sound.conns conn (mem_of_getElem? target)
  have still : state.draining.Quiet state.draining := quiet_of_same rfl
  have calm := @not_disturbs_advance state call index found
  have ⟨on, stage⟩ := call
  cases stage with
  | calling =>
    simp only [advance] at advanced
    split at advanced
    · rename_i listed
      cases advanced
      refine .moved found still sound.conns (.plain ?_ rfl nofun rfl nofun)
      intro ⟨other, otherConn, present, _, points, closed⟩
      cases Option.some.inj (found.symm.trans present)
      cases Option.some.inj (target.symm.trans points)
      exact closed listed
    · rename_i closed
      cases advanced
      exact .moved found still sound.conns
        (.failing (.inl ⟨_, conn, found, rfl, target, closed⟩) nofun)
  | opened =>
    simp only [advance] at advanced
    split at advanced
    · cases advanced
      exact .moved found still sound.conns (.plain (calm nofun) rfl nofun rfl nofun)
    · have ⟨draining, quiet, same⟩ := load_some advanced
      rw [same]
      exact .moved found quiet sound.conns (.plain (calm nofun) rfl nofun rfl nofun)
  | loaded stream =>
    have ⟨draining, stepped, same⟩ := Option.map_eq_some_iff.mp advanced
    rw [← same]
    exact .moved found (add_quiet stepped) sound.conns
      (.plain (calm nofun) rfl nofun rfl (by decide))
  | waiting =>
    have ⟨_, same⟩ := Option.ite_none_right_eq_some.mp advanced
    rw [← Option.some.inj same]
    exact .moved found still (sound.pointed known) (.plain (calm nofun) rfl nofun rfl nofun)
  | locked =>
    simp only [advance] at advanced
    split at advanced
    · cases advanced
      exact .moved found still sound.conns (.plain (calm nofun) rfl nofun rfl nofun)
    · rename_i unset
      cases advanced
      have live := known.live (Bool.eq_false_iff.mpr unset)
      exact .moved found still sound.conns
        { enters := fun wrapper relies => .inr (Option.some.inj relies ▸ live)
          fails := nofun
          doomed := nofun
          disturbed := fun disturbs => absurd disturbs (calm nofun)
          running := nofun }
  | tracked wrapper =>
    cases advanced
    have points := sound.windows _ (mem_of_getElem? found) wrapper rfl
    exact .moved found still (sound.pointed points) (.relying (calm nofun) rfl rfl)
  | reopening wrapper =>
    simp only [advance] at advanced
    split at advanced
    · cases advanced
      exact .moved found still sound.conns (.relying (calm nofun) rfl rfl)
    · rename_i closed
      cases advanced
      exact .moved found still (sound.pointed known)
        (.failing (.inr ⟨wrapper, rfl, fun live => closed live.listed⟩) nofun)
  | rewrapping wrapper =>
    simp only [advance] at advanced
    split at advanced
    · rename_i set
      cases advanced
      refine .moved found still (sound.pointed known)
        (.failing (.inr ⟨wrapper, rfl, fun live => ?_⟩) nofun)
      rw [live.fresh] at set
      cases set
    · rename_i unset
      have ⟨draining, quiet, same⟩ := load_some advanced
      rw [same]
      exact .moved found quiet sound.conns
        { enters := nofun
          fails := nofun
          doomed := fun other relies set => absurd (Option.some.inj relies ▸ set) unset
          disturbed := fun disturbs => absurd disturbs (calm nofun)
          running := nofun }
  | reloaded stream =>
    have ⟨draining, stepped, same⟩ := Option.map_eq_some_iff.mp advanced
    rw [← same]
    exact .moved found (add_quiet stepped) (sound.pointed known)
      (.plain (calm nofun) rfl nofun rfl (by decide))
  | dialing | returned => cases advanced

theorem dialed_effect {on : Nat} {result : Option (Nat × GoString)}
    (sound : state.Sound) (found : state.calls[index]? = some ⟨on, .dialing⟩)
    (target : state.conns[on]? = some conn)
    (returned : state.dialed index ⟨on, .dialing⟩ conn result = some next) :
    Effect state (.dial index result) next := by
  have known := sound.conns conn (mem_of_getElem? target)
  cases result with
  | none =>
    cases returned
    exact .moved found (quiet_of_same rfl) (sound.pointed known)
      (.failing (.inl rfl) nofun)
  | some result =>
    cases returned
    have ⟨quiet, live⟩ := quiet_track state.draining result.1 result.2
    exact .moved found quiet sound.conns
      { enters := fun wrapper relies => .inr (Option.some.inj relies ▸ live)
        fails := nofun
        doomed := nofun
        disturbed := nofun
        running := nofun }

theorem drain_effect {drain : DrainEvent} (stepped : state.drain drain = some next)
    (quiet : ∀ now, drain ≠ .migrate now) (running : drain ≠ .close)
    (calm : ¬state.Disturbs event) : Effect state event next := by
  have ⟨draining, moved, same⟩ := Option.map_eq_some_iff.mp stepped
  rw [← same]
  exact .drained (quiet_step moved quiet running) calm

theorem step_effect (sound : state.Sound) (stepped : state.step event = some next) :
    Effect state event next := by
  cases event with
  | handOut conn name =>
    cases stepped
    have ⟨quiet, live⟩ := quiet_track state.draining conn name
    exact .handed quiet live id
  | call target =>
    have ⟨_, same⟩ := Option.ite_none_right_eq_some.mp stepped
    cases same
    exact .called target id
  | advance index =>
    have ⟨call, found, rest⟩ := Option.bind_eq_some_iff.mp stepped
    have ⟨conn, target, advanced⟩ := Option.bind_eq_some_iff.mp rest
    exact advance_effect sound found target advanced
  | dial index result =>
    have ⟨call, found, rest⟩ := Option.bind_eq_some_iff.mp stepped
    have ⟨conn, target, guarded⟩ := Option.bind_eq_some_iff.mp rest
    have ⟨stage, returned⟩ := Option.ite_none_right_eq_some.mp guarded
    have ⟨on, _⟩ := call
    cases stage
    exact dialed_effect sound found target returned
  | swap | sub | drainIdle =>
    exact drain_effect stepped (fun _ => nofun) nofun id
  | migrate now =>
    cases stepped
    exact .migrated now rfl

/-! ## Whole runs -/

theorem run_smooth_iff {drainTimeout : Int} {events : List MigratedEvent} {final : Migrated}
    (ran : machine.run (new drainTimeout) events = some final) :
    final.Smooth ↔ machine.Never Disturbs (new drainTimeout) events := by
  have start : (new drainTimeout).Smooth := nofun
  have sound : (new drainTimeout).Sound := ⟨nofun, nofun⟩
  have decided := Machine.run_iff_never Sound (fun _ => True)
    (fun sound stepped => (step_effect sound stepped).sound sound)
    (fun sound _ stepped => ⟨(step_effect sound stepped).smooth_before sound,
      fun ⟨smooth, calm⟩ => (step_effect sound stepped).smooth sound smooth calm⟩)
    events sound (fun _ _ => trivial) ran
  rw [decided]
  exact and_iff_right start

theorem Settled.succeeded_iff (settled : state.Settled) :
    (∀ call ∈ state.calls, call.stage = .returned true) ↔ state.Smooth := by
  refine ⟨fun succeeded call listed => ?_, fun smooth call listed => ?_⟩
  · rw [succeeded call listed]
    exact ⟨by decide, nofun⟩
  · have ⟨ok, returned⟩ := settled call listed
    cases ok with
    | true => exact returned
    | false => exact absurd returned (smooth call listed).1

/-- In every interleaving no call fails as long as no call finds its connection closed, no migration
falls between its last two looks at the flag and no dial fails; and when all calls have returned,
all of them succeeded exactly if none of these happened. -/
theorem streams_open_iff_undisturbed (drainTimeout : Int) (events : List MigratedEvent)
    (state : Migrated) (ran : machine.run (new drainTimeout) events = some state) :
    (machine.Never Disturbs (new drainTimeout) events →
      ∀ call ∈ state.calls, call.stage ≠ .returned false) ∧
    (state.Settled → ((∀ call ∈ state.calls, call.stage = .returned true) ↔
      machine.Never Disturbs (new drainTimeout) events)) := by
  have smooth := run_smooth_iff ran
  refine ⟨fun never call listed => (smooth.mpr never call listed).1, fun settled => ?_⟩
  rw [settled.succeeded_iff, smooth]

def migrationEvents : List MigratedEvent :=
  [.handOut 1 [104, 51], .migrate 0, .call 0, .advance 0, .advance 0, .advance 0, .advance 0,
    .dial 0 (some (2, [99, 100, 110])), .advance 0, .advance 0, .advance 0, .advance 0]

/-- A call between a migration and the next drain pass succeeds, and nothing disturbed it. -/
theorem migration_undisturbed : ∃ state,
    machine.run (new 0) migrationEvents = some state ∧
      state.calls = [⟨0, .returned true⟩] ∧ machine.Never Disturbs (new 0) migrationEvents := by
  refine ⟨_, rfl, rfl, ?_⟩
  have succeeded : ∀ call ∈ [(⟨0, .returned true⟩ : OpenCall)], call.stage = .returned true := by
    intro call listed
    rw [mem_singleton.mp listed]
  have exactly := (streams_open_iff_undisturbed 0 migrationEvents _ rfl).2 fun call listed =>
    ⟨true, succeeded call listed⟩
  exact exactly.mp succeeded

def drainedEvents : List MigratedEvent :=
  [.handOut 1 [104, 51], .migrate 0, .drainIdle 1, .call 0, .advance 0]

theorem drained_connection_dead : ∃ state, machine.run (new 0) drainedEvents = some state ∧
    state.calls = [⟨0, .returned false⟩] ∧ ∀ index result, .dial index result ∉ drainedEvents := by
  refine ⟨_, rfl, rfl, fun index result listed => ?_⟩
  simp only [drainedEvents, mem_cons, not_mem_nil, reduceCtorEq, or_self] at listed

end Migrated

end Shuttle.Selector
