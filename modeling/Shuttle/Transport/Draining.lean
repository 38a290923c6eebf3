import Shuttle.Lib.Machine
import Shuttle.Transport.Migrator

/-!
# Streams on draining connections

`WrapStream` looks at the draining flag and counts the stream in two steps, and closing a stream
marks it and uncounts it in two more, while migrations and drain passes run between any of them. A
wrapped stream is open from the step that counts it to the step by which its first `Close` uncounts
it.
-/

namespace Shuttle.Selector

open Shuttle.Go Shuttle.Lib List Migrator

inductive StreamStage where
  /-- `WrapStream` found the connection not draining. -/
  | loaded
  | returned
  /-- A `Close` set the stream's flag and is about to uncount it. -/
  | closing
  | closed
deriving DecidableEq, Repr

def StreamStage.isOpen : StreamStage → Bool
  | .returned | .closing => true
  | .loaded | .closed => false

structure MigrateStream where
  parent : Nat
  stage : StreamStage

structure Draining where
  migrator : Migrator
  streams : List MigrateStream

inductive DrainEvent where
  | track (conn : Nat) (transportName : GoString)
  | load (wrapper : Nat)
  | add (stream : Nat)
  | swap (stream : Nat)
  | sub (stream : Nat)
  | migrate (now : Int)
  | drainIdle (now : Int)
  | close

def Migrator.count (migrator : Migrator) (wrapper : Nat) (change : Int32 → Int32) : Migrator :=
  { migrator with
    tracked := migrator.tracked.modify wrapper fun tc =>
      { tc with activeStreams := change tc.activeStreams } }

namespace Draining

def new (drainTimeout : Int) : Draining := ⟨.new drainTimeout, []⟩

variable (draining : Draining)

def setStage (index parent : Nat) (stage : StreamStage) : List MigrateStream :=
  draining.streams.set index ⟨parent, stage⟩

def step : DrainEvent → Option Draining
  | .track conn name => some { draining with migrator := draining.migrator.track conn name }
  | .load wrapper =>
    match draining.migrator.tracked[wrapper]? with
    | none => none
    | some tc =>
      -- A draining connection makes `WrapStream` return its error.
      if tc.draining then some draining
      else some { draining with streams := draining.streams ++ [⟨wrapper, .loaded⟩] }
  | .add stream =>
    match draining.streams[stream]? with
    | some ⟨parent, .loaded⟩ =>
      some ⟨draining.migrator.count parent (· + 1), draining.setStage stream parent .returned⟩
    | _ => none
  | .swap stream =>
    match draining.streams[stream]? with
    | some ⟨parent, .returned⟩ =>
      some { draining with streams := draining.setStage stream parent .closing }
    | some ⟨_, .closing⟩ | some ⟨_, .closed⟩ => some draining
    | _ => none
  | .sub stream =>
    match draining.streams[stream]? with
    | some ⟨parent, .closing⟩ =>
      some ⟨draining.migrator.count parent (· - 1), draining.setStage stream parent .closed⟩
    | _ => none
  | .migrate now => some { draining with migrator := draining.migrator.migrate now }
  | .drainIdle now => some { draining with migrator := draining.migrator.drainIdle now }
  | .close => some { draining with migrator := draining.migrator.close }

def machine : Machine Draining DrainEvent := ⟨step⟩

/-- Number of streams on a connection that were returned and not yet closed. -/
def openStreams (wrapper : Nat) : Nat :=
  draining.streams.countP fun stream => stream.parent == wrapper && stream.stage.isOpen

/-- Number of streams on a connection that no `Close` has reached. -/
def unclosedStreams (wrapper : Nat) : Nat :=
  draining.streams.countP fun stream => stream.parent == wrapper && stream.stage == .returned

/-- A drain pass closes a connection: it takes it off the list. -/
def Drains (now : Int) (wrapper : Nat) : Prop :=
  wrapper ∈ draining.migrator.connections ∧
    wrapper ∉ (draining.migrator.drainIdle now).connections

/-! ## What a step keeps -/

/-- The counters are the numbers of open streams, in 32 bits. -/
structure Counted (draining : Draining) : Prop where
  counts : ∀ wrapper (tc : MigrateConn), draining.migrator.tracked[wrapper]? = some tc →
    tc.activeStreams = .ofNat (draining.openStreams wrapper)
  parents : ∀ stream ∈ draining.streams, stream.parent < draining.migrator.tracked.length

inductive Effect (draining : Draining) : Draining → Prop where
  /-- Flags and the list change, and no counter. -/
  | relisted {migrator : Migrator}
      (same : migrator.tracked.map MigrateConn.activeStreams =
        draining.migrator.tracked.map MigrateConn.activeStreams) :
      Effect draining { draining with migrator := migrator }
  | tracked (conn : Nat) (name : GoString) :
      Effect draining { draining with migrator := draining.migrator.track conn name }
  /-- A call of `WrapStream` goes on. -/
  | loaded {wrapper : Nat} (known : wrapper < draining.migrator.tracked.length) :
      Effect draining { draining with streams := draining.streams ++ [⟨wrapper, .loaded⟩] }
  | marked {index parent : Nat} (found : draining.streams[index]? = some ⟨parent, .returned⟩) :
      Effect draining { draining with streams := draining.setStage index parent .closing }
  | added {index parent : Nat} (found : draining.streams[index]? = some ⟨parent, .loaded⟩) :
      Effect draining ⟨draining.migrator.count parent (· + 1),
        draining.setStage index parent .returned⟩
  | subtracted {index parent : Nat}
      (found : draining.streams[index]? = some ⟨parent, .closing⟩) :
      Effect draining ⟨draining.migrator.count parent (· - 1),
        draining.setStage index parent .closed⟩

variable {draining next : Draining}

theorem migrate_counters (migrator : Migrator) (now : Int) :
    (migrator.migrate now).tracked.map MigrateConn.activeStreams =
      migrator.tracked.map MigrateConn.activeStreams := by
  apply ext_getElem?
  intro wrapper
  rw [getElem?_map, migrate_get, getElem?_map, Option.map_map]
  congr 1
  funext tc
  rw [Function.comp_apply]
  split
  · unfold startDraining
    split <;> rfl
  · rfl

theorem step_effect {event : DrainEvent} (stepped : draining.step event = some next) :
    Effect draining next := by
  cases event with
  | track conn name =>
    cases stepped
    exact .tracked conn name
  | load wrapper =>
    rw [step] at stepped
    split at stepped
    · cases stepped
    rename_i tc found
    split at stepped <;> cases stepped
    · exact .relisted rfl
    · exact .loaded (List.getElem?_eq_some_iff.mp found).1
  | add stream =>
    rw [step] at stepped
    split at stepped
    · rename_i found
      cases stepped
      exact .added found
    · cases stepped
  | swap stream =>
    rw [step] at stepped
    split at stepped
    · rename_i found
      cases stepped
      exact .marked found
    all_goals cases stepped
    all_goals exact .relisted rfl
  | sub stream =>
    rw [step] at stepped
    split at stepped
    · rename_i found
      cases stepped
      exact .subtracted found
    · cases stepped
  | migrate now =>
    cases stepped
    exact .relisted (migrate_counters draining.migrator now)
  | drainIdle now | close =>
    cases stepped
    exact .relisted rfl

variable {index parent : Nat} {old stage : StreamStage} {tc : MigrateConn}

theorem countP_setStage
    (found : draining.streams[index]? = some ⟨parent, old⟩) (counted : MigrateStream → Bool) :
    (draining.setStage index parent stage).countP counted +
        (if counted ⟨parent, old⟩ then 1 else 0) =
      draining.streams.countP counted + (if counted ⟨parent, stage⟩ then 1 else 0) := by
  have ⟨inside, same⟩ := List.getElem?_eq_some_iff.mp found
  have positive : counted ⟨parent, old⟩ = true → 0 < draining.streams.countP counted := by
    intro holds
    exact List.countP_pos_iff.mpr ⟨_, List.mem_of_getElem? found, holds⟩
  rw [setStage, List.countP_set inside, same]
  split
  · rename_i holds
    have := positive holds
    omega
  · omega

theorem parents_setStage {bound : Nat} (found : draining.streams[index]? = some ⟨parent, old⟩)
    (parents : ∀ stream ∈ draining.streams, stream.parent < bound) :
    ∀ stream ∈ draining.setStage index parent stage, stream.parent < bound := by
  intro stream listed
  rcases mem_or_eq_of_mem_set listed with older | rfl
  · exact parents stream older
  · exact parents ⟨parent, old⟩ (mem_of_getElem? found)

theorem count_get {migrator : Migrator} {wrapper : Nat} {change : Int32 → Int32}
    (found : (migrator.count parent change).tracked[wrapper]? = some tc) :
    ∃ before, migrator.tracked[wrapper]? = some before ∧
      tc.activeStreams = if parent = wrapper then change before.activeStreams
        else before.activeStreams := by
  rw [Migrator.count, getElem?_modify] at found
  have ⟨before, present, same⟩ := Option.map_eq_some_iff.mp found
  refine ⟨before, present, ?_⟩
  rw [← same]
  split <;> rfl

theorem count_id (migrator : Migrator) (wrapper : Nat) : migrator.count wrapper id = migrator := by
  have same : (fun tc : MigrateConn => { tc with activeStreams := id tc.activeStreams }) = id := rfl
  rw [Migrator.count, same, modify_id]

theorem Counted.go {change : Int32 → Int32}
    (counted : draining.Counted) (found : draining.streams[index]? = some ⟨parent, old⟩)
    (changed : ∀ before after : Nat,
      after + (if old.isOpen then 1 else 0) = before + (if stage.isOpen then 1 else 0) →
        change (.ofNat before) = .ofNat after) :
    Counted ⟨draining.migrator.count parent change, draining.setStage index parent stage⟩ where
  counts wrapper tc present := by
    have ⟨before, was, now⟩ := count_get present
    have held := counted.counts wrapper before was
    have moved := @countP_setStage draining index parent old stage found fun stream =>
      stream.parent == wrapper && stream.stage.isOpen
    rw [openStreams] at held
    rw [now, held]
    by_cases own : parent = wrapper
    · subst own
      simp only [BEq.rfl, Bool.true_and] at moved
      rw [if_pos rfl]
      exact changed _ _ moved
    · have apart : (parent == wrapper) = false := beq_false_of_ne own
      simp only [apart, Bool.false_and, Bool.false_eq_true, if_false, Nat.add_zero] at moved
      rw [if_neg own, ← moved]
      rfl
  parents := by
    intro stream listed
    rw [Migrator.count, length_modify]
    exact parents_setStage found counted.parents stream listed

theorem Counted.step {event : DrainEvent} (counted : draining.Counted)
    (stepped : draining.step event = some next) : next.Counted := by
  cases step_effect stepped with
  | @relisted migrator same =>
    have length : migrator.tracked.length = draining.migrator.tracked.length := by
      simpa only [length_map] using congrArg length same
    refine ⟨fun wrapper tc present => ?_, fun stream listed => ?_⟩
    · have counter := congrArg (fun counters => counters[wrapper]?) same
      simp only [getElem?_map] at counter
      rw [present] at counter
      have ⟨before, was, equal⟩ := Option.map_eq_some_iff.mp counter.symm
      rw [← equal]
      exact counted.counts wrapper before was
    · rw [length]
      exact counted.parents stream listed
  | tracked conn name =>
    refine ⟨fun wrapper tc present => ?_, fun stream listed => ?_⟩
    · rw [track, getElem?_append] at present
      split at present
      · exact counted.counts wrapper tc present
      · have fresh := mem_singleton.mp (mem_of_getElem? present)
        rw [fresh]
        refine congrArg Int32.ofNat (countP_eq_zero.mpr fun stream listed => ?_).symm
        have below := counted.parents stream listed
        have apart : (stream.parent == wrapper) = false := beq_false_of_ne (by omega)
        rw [apart]
        exact Bool.false_ne_true
    · rw [track, length_append]
      exact Nat.lt_add_right _ (counted.parents stream listed)
  | @loaded wrapper known =>
    refine ⟨fun other tc present => ?_, fun stream listed => ?_⟩
    · rw [counted.counts other tc present, openStreams, openStreams]
      simp [StreamStage.isOpen]
    · rcases mem_append.mp listed with older | new
      · exact counted.parents stream older
      · rw [mem_singleton.mp new]
        exact known
  | marked found =>
    have kept := @Counted.go draining _ _ _ .closing id counted found fun before after same =>
      congrArg Int32.ofNat (Nat.add_right_cancel same).symm
    rwa [count_id] at kept
  | added found =>
    refine counted.go found fun before after more => ?_
    rw [show after = before + 1 from more, Int32.ofNat_add]
    rfl
  | subtracted found =>
    refine counted.go found fun before after fewer => ?_
    rw [← show after + 1 = before from fewer, Int32.ofNat_add]
    exact Int32.add_sub_cancel _ _

theorem run_counted {drainTimeout : Int} {events : List DrainEvent} {state : Draining}
    (ran : machine.run (new drainTimeout) events = some state) : state.Counted := by
  refine Machine.run_invariant Counted Counted.step events ⟨?_, ?_⟩ ran
  · exact fun _ _ found => (nomatch found)
  · exact nofun

theorem drains_iff {now : Int} {wrapper : Nat} : draining.Drains now wrapper ↔
    wrapper ∈ draining.migrator.connections ∧
      (draining.migrator.tracked[wrapper]?).any (draining.migrator.drained now) = true := by
  refine and_congr_right fun listed => ?_
  rw [drainIdle, mem_filter]
  simp [listed]

theorem drained_iff {migrator : Migrator} {now : Int} :
    migrator.drained now tc = true ↔ tc.draining = true ∧ (tc.activeStreams = 0 ∨
      ∃ started, tc.drainStarted = some started ∧ migrator.drainTimeout < now - started) := by
  rw [drained, Bool.and_eq_true, Bool.or_eq_true, beq_iff_eq, Option.any_eq_true]
  simp only [decide_eq_true_eq]

theorem openStreams_eq_unclosed (quiet : ∀ stream ∈ draining.streams, stream.stage ≠ .closing)
    (wrapper : Nat) : draining.openStreams wrapper = draining.unclosedStreams wrapper := by
  refine countP_congr fun stream listed => ?_
  have calm := quiet stream listed
  revert calm
  cases stream.stage <;> simp [StreamStage.isOpen]

/-- In every interleaving with fewer than 2 ^ 31 streams the 32-bit counter of a tracked connection
is the number of its wrapped streams that were returned and not closed, and a drain pass closes a
connection only if it is draining and has no such stream or its drain timeout has passed. -/
theorem counted_and_drained (drainTimeout : Int) (events : List DrainEvent) (state : Draining)
    (ran : machine.run (new drainTimeout) events = some state)
    (few : state.streams.length < 2 ^ 31) :
    (∀ wrapper (tc : MigrateConn), state.migrator.tracked[wrapper]? = some tc →
      tc.activeStreams.toInt = state.openStreams wrapper ∧
        ((∀ stream ∈ state.streams, stream.stage ≠ .closing) →
          tc.activeStreams.toInt = state.unclosedStreams wrapper)) ∧
      ∀ now wrapper, state.Drains now wrapper → ∃ tc,
        state.migrator.tracked[wrapper]? = some tc ∧ tc.draining = true ∧
          (state.openStreams wrapper = 0 ∨ ∃ started, tc.drainStarted = some started ∧
            state.migrator.drainTimeout < now - started) := by
  have counter {wrapper : Nat} {tc : MigrateConn}
      (found : state.migrator.tracked[wrapper]? = some tc) :
      tc.activeStreams.toInt = state.openStreams wrapper := by
    rw [(run_counted ran).counts wrapper tc found]
    exact Int32.toInt_ofNat_of_lt (Nat.lt_of_le_of_lt countP_le_length few)
  refine ⟨fun wrapper tc found => ?_, fun now wrapper drains => ?_⟩
  · refine ⟨counter found, fun quiet => ?_⟩
    rw [counter found, openStreams_eq_unclosed quiet wrapper]
  · have ⟨_, drained⟩ := drains_iff.mp drains
    rw [Option.any_eq_true] at drained
    have ⟨tc, found, isDrained⟩ := drained
    have ⟨isDraining, cause⟩ := drained_iff.mp isDrained
    refine ⟨tc, found, isDraining, cause.imp_left fun idle => ?_⟩
    have count := counter found
    rw [idle, Int32.toInt_zero] at count
    exact Int.ofNat_inj.mp count.symm

def raceEvents : List DrainEvent :=
  [.track 7 [104, 51], .load 0, .load 0, .add 1, .migrate 0, .add 0, .swap 1, .swap 1, .sub 1]

/-- Two streams raced with a migration and one of them was closed: the counter is 1. -/
theorem counted_in_race : ∃ state : Draining, machine.run (new 0) raceEvents = some state ∧
    ∃ tc : MigrateConn, state.migrator.tracked[0]? = some tc ∧ tc.draining = true ∧
      tc.activeStreams.toInt = state.openStreams 0 ∧ state.openStreams 0 = 1 := by
  have ⟨counter, _⟩ := (counted_and_drained 0 raceEvents _ rfl (by decide)).1 0 _ rfl
  exact ⟨_, rfl, _, rfl, rfl, counter, rfl⟩

end Draining

end Shuttle.Selector
