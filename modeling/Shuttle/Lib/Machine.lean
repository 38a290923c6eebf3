import Mathlib.Algebra.GroupWithZero.Nat
import Mathlib.Data.List.Basic

/-!
# Machines and their runs

A machine takes one step for each event that is possible in its state; a run is a list of
events, so an interleaving of concurrent parties is one list. What holds in every state of a
run is proved from single steps: an invariant is kept by all of them, and a property that one
kind of step can break holds along a run exactly when no step of it is of that kind.
-/

namespace Shuttle.Lib

open List

/-- A machine: the state after an event, none when the event is not possible. -/
structure Machine (σ ε : Type) where
  step : σ → ε → Option σ

namespace Machine

variable {σ ε : Type} (machine : Machine σ ε)

def run : σ → List ε → Option σ
  | state, [] => some state
  | state, event :: events =>
    match machine.step state event with
    | none => none
    | some next => run next events

/-- A property holds in every state that a front part of the events leads to. -/
def Always (property : σ → Prop) (state : σ) (events : List ε) : Prop :=
  ∀ before after reached, events = before ++ after → machine.run state before = some reached →
    property reached

/-- No step of the run is one of these. -/
def Never (forbidden : σ → ε → Prop) (state : σ) (events : List ε) : Prop :=
  ∀ before event after reached next, events = before ++ event :: after →
    machine.run state before = some reached → machine.step reached event = some next →
    ¬forbidden reached event

variable {machine}

theorem run_cons {state next : σ} {event : ε} (stepped : machine.step state event = some next)
    (events : List ε) : machine.run state (event :: events) = machine.run next events := by
  rw [run, stepped]

theorem run_cons_some {state final : σ} {event : ε} {events : List ε}
    (ran : machine.run state (event :: events) = some final) :
    ∃ next, machine.step state event = some next ∧ machine.run next events = some final := by
  rw [run] at ran
  cases stepped : machine.step state event with
  | none =>
    rw [stepped] at ran
    cases ran
  | some next =>
    rw [stepped] at ran
    exact ⟨next, rfl, ran⟩

theorem run_append (before after : List ε) {state reached : σ}
    (ran : machine.run state before = some reached) :
    machine.run state (before ++ after) = machine.run reached after := by
  induction before generalizing state reached with
  | nil =>
    cases ran
    rfl
  | cons event events ih =>
    have ⟨next, stepped, rest⟩ := run_cons_some ran
    rw [cons_append, run_cons stepped]
    exact ih rest

variable (invariant : σ → Prop) {property : σ → Prop} {forbidden : σ → ε → Prop}

theorem run_invariant
    (kept : ∀ {state next event}, invariant state → machine.step state event = some next →
      invariant next) (events : List ε) :
    ∀ {state final}, invariant state → machine.run state events = some final → invariant final := by
  induction events with
  | nil =>
    intro state final holds ran
    cases ran
    exact holds
  | cons event events ih =>
    intro state final holds ran
    have ⟨next, stepped, rest⟩ := run_cons_some ran
    exact ih (kept holds stepped) rest

theorem always_cons_iff {state : σ} {event : ε} {events : List ε} :
    machine.Always property state (event :: events) ↔
      property state ∧ ∀ next, machine.step state event = some next →
        machine.Always property next events := by
  constructor
  · intro always
    refine ⟨always [] _ state rfl rfl, fun next stepped before after reached split ran => ?_⟩
    apply always (event :: before) after reached
    · rw [split, cons_append]
    · rw [run_cons stepped, ran]
  · intro ⟨now, later⟩ before after reached split ran
    cases before with
    | nil =>
      cases ran
      exact now
    | cons first before =>
      have ⟨head, tail⟩ := List.cons.inj split
      rw [← head] at ran
      have ⟨next, stepped, rest⟩ := run_cons_some ran
      exact later next stepped before after reached tail rest

theorem never_cons_iff {state : σ} {event : ε} {events : List ε} :
    machine.Never forbidden state (event :: events) ↔
      ∀ next, machine.step state event = some next →
        ¬forbidden state event ∧ machine.Never forbidden next events := by
  constructor
  · intro never next stepped
    refine ⟨never [] event events state next rfl rfl stepped, ?_⟩
    intro before other after reached following split ran otherStepped
    apply never (event :: before) other after reached following
    · rw [split, cons_append]
    · rw [run_cons stepped, ran]
    · exact otherStepped
  · intro later before other after reached following split ran otherStepped
    cases before with
    | nil =>
      cases ran
      have ⟨head, _⟩ := List.cons.inj split
      rw [← head] at otherStepped ⊢
      exact (later following otherStepped).1
    | cons first before =>
      have ⟨head, tail⟩ := List.cons.inj split
      rw [← head] at ran
      have ⟨next, stepped, rest⟩ := run_cons_some ran
      exact (later next stepped).2 before other after reached following tail rest otherStepped

theorem never_nil {state : σ} : machine.Never forbidden state [] := by
  intro before event after reached next split _ _
  exact absurd split.symm (append_ne_nil_of_right_ne_nil _ (cons_ne_nil _ _))

instance decidableNever {forbidden : σ → ε → Prop}
    [∀ state event, Decidable (forbidden state event)] :
    ∀ (events : List ε) (state : σ), Decidable (machine.Never forbidden state events)
  | [], _ => isTrue never_nil
  | event :: events, state =>
    match stepped : machine.step state event with
    | none => isTrue (never_cons_iff.mpr fun next taken => by rw [stepped] at taken; cases taken)
    | some next =>
      have : Decidable (machine.Never forbidden next events) := decidableNever events next
      decidable_of_iff (¬forbidden state event ∧ machine.Never forbidden next events) <| by
        rw [never_cons_iff, stepped]
        simp

theorem run_iff_never (allowed : ε → Prop) {property : σ → Prop}
    {forbidden : σ → ε → Prop}
    (kept : ∀ {state next event}, invariant state → machine.step state event = some next →
      invariant next)
    (decides : ∀ {state next event}, invariant state → allowed event →
      machine.step state event = some next →
      (property next ↔ property state ∧ ¬forbidden state event))
    (events : List ε) : ∀ {state final}, invariant state → (∀ event ∈ events, allowed event) →
      machine.run state events = some final →
      (property final ↔ property state ∧ machine.Never forbidden state events) := by
  induction events with
  | nil =>
    intro state final _ _ ran
    cases ran
    exact ⟨fun holds => ⟨holds, never_nil⟩, And.left⟩
  | cons event events ih =>
    intro state final sound permitted ran
    have ⟨next, stepped, rest⟩ := run_cons_some ran
    have ⟨first, later⟩ := forall_mem_cons.mp permitted
    rw [ih (kept sound stepped) later rest, decides sound first stepped, never_cons_iff, and_assoc]
    refine and_congr_right fun _ => ⟨fun calm other same => ?_, fun calm => calm next stepped⟩
    cases Option.some.inj (stepped.symm.trans same)
    exact calm

theorem always_of_never
    (kept : ∀ {state next event}, invariant state → machine.step state event = some next →
      ¬forbidden state event → invariant next)
    (implies : ∀ {state}, invariant state → property state) (events : List ε) :
    ∀ {state}, invariant state → machine.Never forbidden state events →
      machine.Always property state events := by
  induction events with
  | nil =>
    intro state sound _ before after reached split ran
    have empty := append_eq_nil_iff.mp split.symm
    rw [empty.1] at ran
    cases ran
    exact implies sound
  | cons event events ih =>
    intro state sound never
    rw [never_cons_iff] at never
    rw [always_cons_iff]
    refine ⟨implies sound, fun next stepped => ?_⟩
    have ⟨allowed, later⟩ := never next stepped
    exact ih (kept sound stepped allowed) later

theorem always_iff_never_of
    (kept : ∀ {state next event}, invariant state → property state →
      machine.step state event = some next → ¬forbidden state event →
      invariant next ∧ property next)
    (breaks : ∀ {state next event}, invariant state → property state →
      machine.step state event = some next → forbidden state event → ¬property next)
    (events : List ε) {state : σ} (sound : invariant state) (holds : property state) :
    machine.Always property state events ↔ machine.Never forbidden state events := by
  constructor
  · intro always
    induction events generalizing state with
    | nil => exact never_nil
    | cons event events ih =>
      have ⟨_, later⟩ := always_cons_iff.mp always
      refine never_cons_iff.mpr fun next stepped => ?_
      have nextHolds := later next stepped [] events next rfl rfl
      have allowed : ¬forbidden state event := fun broken =>
        breaks sound holds stepped broken nextHolds
      have ⟨nextSound, _⟩ := kept sound holds stepped allowed
      exact ⟨allowed, ih nextSound nextHolds (later next stepped)⟩
  · exact always_of_never (fun state => invariant state ∧ property state)
      (fun both stepped allowed => kept both.1 both.2 stepped allowed) And.right events
      ⟨sound, holds⟩

theorem always_iff_never
    (decides : ∀ {state next event}, invariant state → property state →
      machine.step state event = some next →
      invariant next ∧ (property next ↔ ¬forbidden state event))
    (events : List ε) {state : σ} (sound : invariant state) (holds : property state) :
    machine.Always property state events ↔ machine.Never forbidden state events :=
  always_iff_never_of invariant
    (fun sound holds stepped calm =>
      have ⟨kept, exactly⟩ := decides sound holds stepped
      ⟨kept, exactly.mpr calm⟩)
    (fun sound holds stepped broken after => (decides sound holds stepped).2.mp after broken)
    events sound holds

end Machine

end Shuttle.Lib
