import Mathlib.Algebra.Group.Int.Defs
import Shuttle.Lib.Machine

/-!
# The circuit breaker of an outbound

`DialContext` of a resilient outbound asks the breaker, dials with retries and records the outcome.
The breaker opens after consecutive failures, and a timer moves it to half-open, where one dial is
let through as a probe. Every locked section is one step, also that of a callback which waits for
the lock after its timer was stopped.
-/

namespace Shuttle.Engine

open Shuttle.Lib List

/-! ## The breaker -/

inductive CircuitState where
  | circuitClosed
  | circuitOpen
  | circuitHalfOpen
  deriving DecidableEq, Repr

/-- A call of `onStateChange`: the state and the cooldown in nanoseconds. -/
abbrev StateChange := CircuitState × Int

/-- Settings of a breaker; values that are not positive are replaced. -/
structure CircuitBreakerConfig where
  threshold : Int
  /-- First cooldown in nanoseconds. -/
  baseCooldown : Int
  /-- Largest cooldown in nanoseconds. -/
  maxCooldown : Int

structure CircuitBreaker where
  state : CircuitState
  consecutiveFails : Nat
  threshold : Int
  cooldown : Int
  baseCooldown : Int
  maxCooldown : Int
  resetTimer : Option Nat
  halfOpenUsed : Bool
  started : Nat
  armed : List Nat
  /-- Timers that fired and whose callback has not had the lock yet. -/
  running : List Nat

def newCircuitBreaker (config : CircuitBreakerConfig) : CircuitBreaker :=
  let baseCooldown := if config.baseCooldown ≤ 0 then 10 * 10 ^ 9 else config.baseCooldown
  { state := .circuitClosed
    consecutiveFails := 0
    threshold := if config.threshold ≤ 0 then 5 else config.threshold
    cooldown := baseCooldown
    baseCooldown := baseCooldown
    maxCooldown := if config.maxCooldown ≤ 0 then 5 * 60 * 10 ^ 9 else config.maxCooldown
    resetTimer := none
    halfOpenUsed := false
    started := 0
    armed := []
    running := [] }

namespace CircuitBreaker

variable (breaker : CircuitBreaker)

/-- Whether a request is let through; the probe is given out once. -/
def allow : Bool × CircuitBreaker :=
  match breaker.state with
  | .circuitClosed => (true, breaker)
  | .circuitOpen => (false, breaker)
  | .circuitHalfOpen =>
    if breaker.halfOpenUsed then (false, breaker)
    else (true, { breaker with halfOpenUsed := true })

/-- Stop the timer started last; a callback that already runs is not stopped. -/
def stopTimer : CircuitBreaker :=
  match breaker.resetTimer with
  | none => breaker
  | some timer => { breaker with armed := breaker.armed.erase timer }

def startTimerLocked : CircuitBreaker :=
  let stopped := breaker.stopTimer
  { stopped with
    resetTimer := some stopped.started
    started := stopped.started + 1
    armed := stopped.started :: stopped.armed }

def recordSuccess : CircuitBreaker × Option StateChange :=
  let stopped := breaker.stopTimer
  ({ stopped with
      state := .circuitClosed
      consecutiveFails := 0
      cooldown := stopped.baseCooldown
      halfOpenUsed := false
      resetTimer := none },
    if breaker.state = .circuitClosed then none else some (.circuitClosed, 0))

def recordFailure : CircuitBreaker × Bool × Option StateChange :=
  let failed := { breaker with consecutiveFails := breaker.consecutiveFails + 1 }
  if failed.state = .circuitHalfOpen then
    let doubled := failed.cooldown * 2
    let cooldown := if failed.maxCooldown < doubled then failed.maxCooldown else doubled
    ({ failed with cooldown, state := .circuitOpen, halfOpenUsed := false }.startTimerLocked, true,
      some (.circuitOpen, cooldown))
  else if failed.state = .circuitClosed ∧ failed.threshold ≤ failed.consecutiveFails then
    ({ failed with state := .circuitOpen }.startTimerLocked, true,
      some (.circuitOpen, failed.cooldown))
  else (failed, false, none)

/-- The locked section of a timer's callback, with the change it reports. -/
def timerCallback : CircuitBreaker × StateChange :=
  (if breaker.state = .circuitOpen then
      { breaker with state := .circuitHalfOpen, halfOpenUsed := false }
    else breaker,
    (.circuitHalfOpen, 0))

/-- A timer may still fire or has fired and waits for the lock. -/
def PendingTimer : Prop := breaker.armed ≠ [] ∨ breaker.running ≠ []

def ProbeUsed : Prop := breaker.state = .circuitHalfOpen ∧ breaker.halfOpenUsed = true

/-- A breaker that is open has a timer that will half-open it. -/
def Rearms : Prop := breaker.state = .circuitOpen → breaker.PendingTimer

theorem allow_false_iff :
    breaker.allow.1 = false ↔ breaker.state = .circuitOpen ∨ breaker.ProbeUsed := by
  unfold allow ProbeUsed
  cases breaker.state with
  | circuitClosed | circuitOpen => simp
  | circuitHalfOpen => cases breaker.halfOpenUsed <;> simp

theorem allow_rejected (rejected : breaker.allow.1 = false) : breaker.allow.2 = breaker := by
  unfold allow at rejected ⊢
  cases state : breaker.state with
  | circuitClosed | circuitOpen => rfl
  | circuitHalfOpen =>
    rw [state] at rejected
    cases used : breaker.halfOpenUsed with
    | true => rfl
    | false =>
      rw [used] at rejected
      cases rejected

theorem allow_frame :
    breaker.allow.2.state = breaker.state ∧ breaker.allow.2.armed = breaker.armed ∧
      breaker.allow.2.running = breaker.running := by
  unfold allow
  cases held : breaker.state with
  | circuitClosed | circuitOpen => exact ⟨held, rfl, rfl⟩
  | circuitHalfOpen =>
    dsimp only
    split
    · exact ⟨held, rfl, rfl⟩
    · exact ⟨rfl, rfl, rfl⟩

theorem stopTimer_frame :
    breaker.stopTimer.state = breaker.state ∧ breaker.stopTimer.running = breaker.running := by
  unfold stopTimer
  cases breaker.resetTimer with
  | none | some timer => exact ⟨rfl, rfl⟩

theorem startTimerLocked_spec :
    breaker.startTimerLocked.state = breaker.state ∧ breaker.startTimerLocked.armed ≠ [] := by
  have ⟨state, _⟩ := breaker.stopTimer_frame
  exact ⟨state, cons_ne_nil _ _⟩

theorem recordFailure_spec :
    breaker.recordFailure.1.state ≠ .circuitHalfOpen ∧
      (breaker.recordFailure.1.state = .circuitOpen →
        breaker.recordFailure.1.armed ≠ [] ∨
          (breaker.state = .circuitOpen ∧ breaker.recordFailure.1.armed = breaker.armed ∧
            breaker.recordFailure.1.running = breaker.running)) := by
  unfold recordFailure
  dsimp only
  split
  · refine ⟨?_, fun _ => .inl (startTimerLocked_spec _).2⟩
    rw [(startTimerLocked_spec _).1]
    exact nofun
  · rename_i notHalf
    split
    · refine ⟨?_, fun _ => .inl (startTimerLocked_spec _).2⟩
      rw [(startTimerLocked_spec _).1]
      exact nofun
    · exact ⟨notHalf, fun stays => .inr ⟨stays, rfl, rfl⟩⟩

theorem timerCallback_spec :
    breaker.timerCallback.1.state ≠ .circuitOpen ∧
      (breaker.timerCallback.1.ProbeUsed ↔ breaker.ProbeUsed) := by
  unfold timerCallback ProbeUsed
  split
  · rename_i opened
    refine ⟨nofun, ?_⟩
    rw [opened]
    simp
  · rename_i notOpen
    exact ⟨notOpen, Iff.rfl⟩

end CircuitBreaker

/-! ## Dials through the breaker -/

/-- A call of `DialContext` that the breaker let through and that has not returned. -/
structure Dial where
  probe : Bool
  attempt : Nat
  waiting : Bool

structure ResilientOutbound where
  breaker : CircuitBreaker
  dials : List Dial

def newResilientOutbound (config : CircuitBreakerConfig) : ResilientOutbound :=
  ⟨newCircuitBreaker config, []⟩

/-- Number of attempts of a dial: the default for zero, one for a negative setting. -/
def attempts (maxAttempts : Int) : Nat :=
  let configured := if maxAttempts = 0 then 3 else maxAttempts
  if configured ≤ 0 then 1 else configured.toNat

inductive DialEvent where
  | start
  | succeed (dial : Nat)
  /-- The inner dial fails. After the last attempt the failure is recorded and returned. -/
  | fail (dial : Nat)
  | retry (dial : Nat)
  /-- The context is done during the back-off, and its error is returned. -/
  | cancel (dial : Nat)
  | fire (timer : Nat)
  | callback (timer : Nat)

namespace ResilientOutbound

variable (outbound : ResilientOutbound)

def inPhase (waiting : Bool) (position : Nat) : Option Dial :=
  outbound.dials[position]?.filter fun dial => dial.waiting == waiting

def step (maxAttempts : Int) (outbound : ResilientOutbound) :
    DialEvent → Option ResilientOutbound
  | .start =>
    if outbound.breaker.allow.1 then
      some ⟨outbound.breaker.allow.2,
        outbound.dials ++ [⟨outbound.breaker.state == .circuitHalfOpen, 1, false⟩]⟩
    else some ⟨outbound.breaker.allow.2, outbound.dials⟩
  | .succeed position =>
    match outbound.inPhase false position with
    | none => none
    | some _ => some ⟨outbound.breaker.recordSuccess.1, outbound.dials.eraseIdx position⟩
  | .fail position =>
    match outbound.inPhase false position with
    | none => none
    | some dial =>
      if dial.attempt < attempts maxAttempts then
        some ⟨outbound.breaker, outbound.dials.set position { dial with waiting := true }⟩
      else some ⟨outbound.breaker.recordFailure.1, outbound.dials.eraseIdx position⟩
  | .retry position =>
    match outbound.inPhase true position with
    | none => none
    | some dial =>
      some ⟨outbound.breaker, outbound.dials.set position ⟨dial.probe, dial.attempt + 1, false⟩⟩
  | .cancel position =>
    match outbound.inPhase true position with
    | none => none
    | some _ => some ⟨outbound.breaker, outbound.dials.eraseIdx position⟩
  | .fire timer =>
    if timer ∈ outbound.breaker.armed then
      some { outbound with breaker := { outbound.breaker with
        armed := outbound.breaker.armed.erase timer
        running := timer :: outbound.breaker.running } }
    else none
  | .callback timer =>
    if timer ∈ outbound.breaker.running then
      some { outbound with breaker := { outbound.breaker with
        running := outbound.breaker.running.erase timer }.timerCallback.1 }
    else none

def machine (maxAttempts : Int) : Machine ResilientOutbound DialEvent := ⟨step maxAttempts⟩

def ProbeInFlight : Prop :=
  ∃ dial ∈ outbound.dials, dial.probe = true

/-- A used probe is in flight, and the outbound does not reject dials without a timer or a probe
that could end it. -/
structure Recoverable (outbound : ResilientOutbound) : Prop where
  probe : outbound.breaker.ProbeUsed → outbound.ProbeInFlight
  pending : outbound.breaker.allow.1 = false →
    outbound.breaker.PendingTimer ∨ outbound.ProbeInFlight

/-- The last probe in flight is cancelled in its back-off while the breaker is half-open behind
it. -/
def LosesProbe (event : DialEvent) : Prop :=
  ∃ position, event = .cancel position ∧ outbound.breaker.ProbeUsed ∧
    ∀ dial ∈ outbound.dials.eraseIdx position, dial.probe = false

inductive Effect (outbound : ResilientOutbound) : DialEvent → ResilientOutbound → Prop
  /-- A dial that is not cancelled changes its phase and stays a probe or not. -/
  | changed {event : DialEvent} {position : Nat} {dial other : Dial}
      (goesOn : ∀ position, event ≠ .cancel position)
      (found : outbound.dials[position]? = some dial) (same : other.probe = dial.probe) :
      Effect outbound event ⟨outbound.breaker, outbound.dials.set position other⟩
  | rejected (refused : outbound.breaker.allow.1 = false) : Effect outbound .start outbound
  | admitted (allowed : outbound.breaker.allow.1 = true) :
      Effect outbound .start ⟨outbound.breaker.allow.2,
        outbound.dials ++ [⟨outbound.breaker.state == .circuitHalfOpen, 1, false⟩]⟩
  | succeeded (position : Nat) : Effect outbound (.succeed position)
      ⟨outbound.breaker.recordSuccess.1, outbound.dials.eraseIdx position⟩
  | failed (position : Nat) : Effect outbound (.fail position)
      ⟨outbound.breaker.recordFailure.1, outbound.dials.eraseIdx position⟩
  | cancelled (position : Nat) : Effect outbound (.cancel position)
      ⟨outbound.breaker, outbound.dials.eraseIdx position⟩
  | fired (timer : Nat) : Effect outbound (.fire timer) { outbound with
      breaker := { outbound.breaker with
        armed := outbound.breaker.armed.erase timer
        running := timer :: outbound.breaker.running } }
  | calledBack (timer : Nat) : Effect outbound (.callback timer) { outbound with
      breaker := { outbound.breaker with
        running := outbound.breaker.running.erase timer }.timerCallback.1 }

variable {outbound next : ResilientOutbound} {event : DialEvent}

theorem inPhase_some {waiting : Bool} {position : Nat} {dial : Dial}
    (found : outbound.inPhase waiting position = some dial) :
    outbound.dials[position]? = some dial := by
  exact (Option.filter_eq_some_iff.mp found).1

theorem step_effect {maxAttempts : Int}
    (stepped : outbound.step maxAttempts event = some next) : Effect outbound event next := by
  cases event with
  | start =>
    rw [step] at stepped
    split at stepped
    · rename_i allowed
      cases stepped
      exact .admitted allowed
    · rename_i refused
      have refused := Bool.not_eq_true _ ▸ refused
      rw [outbound.breaker.allow_rejected refused] at stepped
      cases stepped
      exact .rejected refused
  | succeed position =>
    rw [step] at stepped
    split at stepped <;> cases stepped
    exact .succeeded position
  | fail position =>
    rw [step] at stepped
    split at stepped
    · cases stepped
    rename_i dial found
    split at stepped <;> cases stepped
    · exact .changed nofun (inPhase_some found) rfl
    · exact .failed position
  | retry position =>
    rw [step] at stepped
    split at stepped
    · cases stepped
    · rename_i dial found
      cases stepped
      exact .changed nofun (inPhase_some found) rfl
  | cancel position =>
    rw [step] at stepped
    split at stepped <;> cases stepped
    exact .cancelled position
  | fire timer =>
    rw [step] at stepped
    split at stepped <;> cases stepped
    exact .fired timer
  | callback timer =>
    rw [step] at stepped
    split at stepped <;> cases stepped
    exact .calledBack timer

theorem Effect.rearms (effect : Effect outbound event next) (rearms : outbound.breaker.Rearms) :
    next.breaker.Rearms := by
  cases effect with
  | changed | rejected | cancelled => exact rearms
  | admitted =>
    have ⟨state, armed, running⟩ := outbound.breaker.allow_frame
    unfold CircuitBreaker.Rearms CircuitBreaker.PendingTimer at rearms ⊢
    rw [state, armed, running]
    exact rearms
  | succeeded => exact nofun
  | failed =>
    intro opened
    have ⟨_, timers⟩ := outbound.breaker.recordFailure_spec
    rcases timers opened with armed | ⟨stays, armed, running⟩
    · exact .inl armed
    · unfold CircuitBreaker.PendingTimer
      rw [armed, running]
      exact rearms stays
  | fired timer =>
    intro _
    exact .inr (cons_ne_nil _ _)
  | calledBack timer =>
    intro opened
    exact absurd opened (CircuitBreaker.timerCallback_spec _).1

theorem probeInFlight_set {position : Nat} {dial other : Dial}
    (found : outbound.dials[position]? = some dial) (same : other.probe = dial.probe)
    (inFlight : outbound.ProbeInFlight) :
    ProbeInFlight ⟨outbound.breaker, outbound.dials.set position other⟩ := by
  have ⟨probe, member, flagged⟩ := inFlight
  have ⟨index, place⟩ := mem_iff_getElem?.mp member
  by_cases here : position = index
  · subst here
    have same' : dial = probe := Option.some.inj (found.symm.trans place)
    refine ⟨other, ?_, by rw [same, same', flagged]⟩
    have ⟨bound, _⟩ := List.getElem?_eq_some_iff.mp found
    exact mem_set bound other
  · refine ⟨probe, ?_, flagged⟩
    apply mem_iff_getElem?.mpr
    exact ⟨index, by rw [List.getElem?_set_ne here, place]⟩

theorem not_losesProbe
    (goesOn : ∀ position, event ≠ .cancel position) : ¬outbound.LosesProbe event :=
  fun ⟨position, cancelled, _⟩ => goesOn position cancelled

theorem Effect.probe_iff (effect : Effect outbound event next)
    (probe : outbound.breaker.ProbeUsed → outbound.ProbeInFlight) :
    (next.breaker.ProbeUsed → next.ProbeInFlight) ↔ ¬outbound.LosesProbe event := by
  cases effect with
  | changed goesOn found same =>
    refine iff_of_true ?_ (not_losesProbe goesOn)
    intro used
    exact probeInFlight_set found same (probe used)
  | rejected | fired timer => exact iff_of_true probe (not_losesProbe nofun)
  | admitted allowed =>
    refine iff_of_true ?_ (not_losesProbe nofun)
    intro ⟨half, _⟩
    rw [outbound.breaker.allow_frame.1] at half
    refine ⟨_, mem_append_right _ mem_cons_self, ?_⟩
    rw [half]
    rfl
  | succeeded => exact iff_of_true (fun ⟨half, _⟩ => (nomatch half)) (not_losesProbe nofun)
  | failed =>
    refine iff_of_true ?_ (not_losesProbe nofun)
    intro ⟨half, _⟩
    exact absurd half outbound.breaker.recordFailure_spec.1
  | cancelled position =>
    constructor
    · intro kept ⟨_, same, used, others⟩
      cases same
      have ⟨dial, member, flagged⟩ := kept used
      rw [others dial member] at flagged
      cases flagged
    · intro keeps used
      by_contra lost
      apply keeps
      refine ⟨position, rfl, used, fun dial member => ?_⟩
      cases flagged : dial.probe with
      | false => rfl
      | true => exact absurd ⟨dial, member, flagged⟩ lost
  | calledBack timer =>
    refine iff_of_true ?_ (not_losesProbe nofun)
    intro used
    have unlocked := (CircuitBreaker.timerCallback_spec { outbound.breaker with
      running := outbound.breaker.running.erase timer }).2
    exact probe (unlocked.mp used)

theorem recoverable_iff (rearms : outbound.breaker.Rearms) :
    outbound.Recoverable ↔ (outbound.breaker.ProbeUsed → outbound.ProbeInFlight) := by
  constructor
  · exact Recoverable.probe
  · intro probe
    refine ⟨probe, fun rejects => ?_⟩
    rcases outbound.breaker.allow_false_iff.mp rejects with opened | used
    · exact .inl (rearms opened)
    · exact .inr (probe used)

theorem wedged_forever (used : outbound.breaker.ProbeUsed)
    (quiet : ¬outbound.breaker.PendingTimer) (idle : outbound.dials = []) (maxAttempts : Int)
    (events : List DialEvent) {final : ResilientOutbound}
    (ran : (machine maxAttempts).run outbound events = some final) : final = outbound := by
  have ⟨unarmed, finished⟩ := not_or.mp quiet
  have armed : outbound.breaker.armed = [] := not_not.mp unarmed
  have running : outbound.breaker.running = [] := not_not.mp finished
  have absent (waiting : Bool) (position : Nat) : outbound.inPhase waiting position = none := by
    rw [inPhase, idle]
    rfl
  refine Machine.run_invariant (· = outbound) (fun {state next event} same stepped => ?_) events rfl
    ran
  have stepped : state.step maxAttempts event = some next := stepped
  rw [same] at stepped
  cases event with
  | start =>
    have rejected := outbound.breaker.allow_false_iff.mpr (.inr used)
    rw [step, rejected, outbound.breaker.allow_rejected rejected] at stepped
    exact (Option.some.inj stepped).symm
  | succeed position | fail position | retry position | cancel position =>
    rw [step, absent] at stepped
    cases stepped
  | fire timer =>
    rw [step, armed] at stepped
    cases stepped
  | callback timer =>
    rw [step, running] at stepped
    cases stepped

def cancelledProbe : List DialEvent :=
  [.start, .fail 0, .retry 0, .fail 0, .fire 0, .callback 0, .start, .fail 0, .cancel 0]

def wedgedOutbound : ResilientOutbound :=
  ⟨⟨.circuitHalfOpen, 1, 1, 10 * 10 ^ 9, 10 * 10 ^ 9, 5 * 60 * 10 ^ 9, some 0, true, 1, [], []⟩, []⟩

end ResilientOutbound

/-! ## Timers and reports

An observer writes down which step half-opened the breaker, the probes of a half-open period, the
changes of state and the calls of `onStateChange`. A callback neither asks whether its timer is the
current one nor reports only what it changed. -/

inductive BreakerEvent where
  | allow
  | recordSuccess
  | recordFailure
  | reset
  | fire (timer : Nat)
  | callback (timer : Nat)

namespace CircuitBreaker

def reset (breaker : CircuitBreaker) : CircuitBreaker × Option StateChange := breaker.recordSuccess

def locked (breaker : CircuitBreaker) :
    BreakerEvent → Option (CircuitBreaker × Bool × Option StateChange)
  | .allow => some (breaker.allow.2, breaker.allow.1, none)
  | .recordSuccess => some (breaker.recordSuccess.1, false, breaker.recordSuccess.2)
  | .recordFailure => some (breaker.recordFailure.1, false, breaker.recordFailure.2.2)
  | .reset => some (breaker.reset.1, false, breaker.reset.2)
  | .fire timer =>
    if timer ∈ breaker.armed then
      some ({ breaker with
        armed := breaker.armed.erase timer
        running := timer :: breaker.running }, false, none)
    else none
  | .callback timer =>
    if timer ∈ breaker.running then
      let called := { breaker with running := breaker.running.erase timer }.timerCallback
      some (called.1, false, some called.2)
    else none

/-- The section does not half-open the breaker and gives out at most the unused probe. -/
structure Plain (breaker next : CircuitBreaker) (allowed : Bool) (report : Option StateChange) :
    Prop where
  half : next.state = .circuitHalfOpen → breaker.state = .circuitHalfOpen ∧
    next.halfOpenUsed.toNat = breaker.halfOpenUsed.toNat + allowed.toNat
  report : report.map Prod.fst = if next.state = breaker.state then none else some next.state

variable (breaker : CircuitBreaker)

theorem allow_plain : Plain breaker breaker.allow.2 breaker.allow.1 none :=
  ⟨by grind [allow], by grind [allow]⟩

theorem recordSuccess_plain : Plain breaker breaker.recordSuccess.1 false breaker.recordSuccess.2 :=
  ⟨nofun, by grind [recordSuccess]⟩

theorem recordFailure_plain :
    Plain breaker breaker.recordFailure.1 false breaker.recordFailure.2.2 :=
  ⟨fun half => absurd half breaker.recordFailure_spec.1,
    by grind [recordFailure, startTimerLocked_spec]⟩

end CircuitBreaker

open CircuitBreaker

structure BreakerLog where
  breaker : CircuitBreaker
  /-- The timer started at the most recent opening. -/
  opening : Option Nat
  /-- The steps from open to half-open, each with the timer of the opening before it. -/
  halfOpenings : List (BreakerEvent × Option Nat)
  /-- Requests let through in the half-open period that lasts. -/
  probes : Nat
  changes : List CircuitState
  /-- The states `onStateChange` is called with, in the order of the locked sections. -/
  reports : List CircuitState

def BreakerLog.start (config : CircuitBreakerConfig) : BreakerLog :=
  ⟨newCircuitBreaker config, none, [], 0, [], []⟩

namespace BreakerLog

variable (log : BreakerLog)

def record (event : BreakerEvent) (next : CircuitBreaker) (allowed : Bool)
    (report : Option StateChange) : BreakerLog where
  breaker := next
  opening := if log.breaker.state ≠ .circuitOpen ∧ next.state = .circuitOpen then next.resetTimer
    else log.opening
  halfOpenings := if log.breaker.state = .circuitOpen ∧ next.state = .circuitHalfOpen then
      log.halfOpenings ++ [(event, log.opening)]
    else log.halfOpenings
  probes := if log.breaker.state = .circuitHalfOpen ∧ next.state = .circuitHalfOpen then
      log.probes + allowed.toNat
    else 0
  changes := if next.state = log.breaker.state then log.changes else log.changes ++ [next.state]
  reports := log.reports ++ (report.map Prod.fst).toList

def machine : Machine BreakerLog BreakerEvent where
  step log event := (log.breaker.locked event).map fun done =>
    log.record event done.1 done.2.1 done.2.2

structure Lawful : Prop where
  timely : ∀ move ∈ log.halfOpenings, ∃ timer, move = (.callback timer, some timer)
  probes : log.probes ≤ 1
  reported : log.reports = log.changes

/-- A callback that is not the one of the most recent opening, or finds the breaker not open. -/
def RunsLate (event : BreakerEvent) : Prop :=
  ∃ timer, event = .callback timer ∧
    ¬(log.breaker.state = .circuitOpen ∧ log.opening = some timer)

/-- The probes of a period are counted by the breaker's own flag. -/
def Counted : Prop :=
  log.probes = if log.breaker.state = .circuitHalfOpen then log.breaker.halfOpenUsed.toNat else 0

variable {log} {next : CircuitBreaker} {allowed : Bool} {report : Option StateChange}

theorem Counted.le_one (counted : log.Counted) : log.probes ≤ 1 := by
  rw [counted]
  split
  · exact Bool.toNat_le _
  · exact Nat.zero_le 1

theorem record_plain (event : BreakerEvent) (counted : log.Counted) (lawful : log.Lawful)
    (plain : Plain log.breaker next allowed report) :
    (log.record event next allowed report).Counted ∧
      (log.record event next allowed report).Lawful := by
  have half := plain.half
  have nextCounted : (log.record event next allowed report).Counted := by
    grind [Counted, record]
  refine ⟨nextCounted, ?_, nextCounted.le_one, ?_⟩
  · grind [record, lawful.timely]
  · grind [record, plain.report, lawful.reported]

/-- A callback half-opens an open breaker and leaves another one alone, and reports either way. -/
theorem locked_callback {breaker : CircuitBreaker} {timer : Nat}
    (ran : breaker.locked (.callback timer) = some (next, allowed, report)) :
    report = some (.circuitHalfOpen, 0) ∧
      if breaker.state = .circuitOpen then
        next.state = .circuitHalfOpen ∧ next.halfOpenUsed = false
      else next.state = breaker.state := by
  rw [locked] at ran
  split at ran <;> cases ran
  unfold timerCallback
  split <;> simp_all

theorem record_timely {timer : Nat} (lawful : log.Lawful)
    (opened : log.breaker.state = .circuitOpen) (own : log.opening = some timer)
    (ran : log.breaker.locked (.callback timer) = some (next, allowed, report)) :
    (log.record (.callback timer) next allowed report).Counted ∧
      (log.record (.callback timer) next allowed report).Lawful := by
  have ⟨reported, moved⟩ := locked_callback ran
  rw [if_pos opened] at moved
  refine ⟨by simp [Counted, record, opened, moved], ?_, by simp [record, opened], ?_⟩
  · grind [record, lawful.timely]
  · simp [record, opened, moved.1, reported, lawful.reported]

theorem record_late {timer : Nat} (lawful : log.Lawful)
    (late : ¬(log.breaker.state = .circuitOpen ∧ log.opening = some timer))
    (ran : log.breaker.locked (.callback timer) = some (next, allowed, report)) :
    ¬(log.record (.callback timer) next allowed report).Lawful := by
  intro next_lawful
  have ⟨reported, moved⟩ := locked_callback ran
  by_cases opened : log.breaker.state = .circuitOpen
  · rw [if_pos opened] at moved
    have ⟨other, same⟩ := next_lawful.timely (.callback timer, log.opening)
      (by simp [record, opened, moved.1])
    have ⟨own, opening⟩ := Prod.mk.inj same
    cases own
    exact late ⟨opened, opening⟩
  · -- Nothing has changed, but half-open is reported once more.
    rw [if_neg opened] at moved
    have longer := congrArg length next_lawful.reported
    simp [record, moved, reported, lawful.reported] at longer

/-- In every run of calls and timers the breaker keeps its protocol exactly when no callback
runs late. -/
theorem lawful_iff_no_late_callback (config : CircuitBreakerConfig) (events : List BreakerEvent) :
    machine.Always Lawful (start config) events ↔ machine.Never RunsLate (start config) events := by
  refine Machine.always_iff_never_of Counted
    (fun {log next event} counted lawful stepped timely => ?_)
    (fun {log next event} counted lawful stepped late => ?_) events rfl ⟨nofun, Nat.zero_le 1, rfl⟩
  · have ⟨⟨breaker, allowed, report⟩, ran, recorded⟩ := Option.map_eq_some_iff.mp stepped
    cases recorded
    cases event with
    | allow =>
      cases ran
      exact record_plain _ counted lawful log.breaker.allow_plain
    | recordSuccess | reset =>
      cases ran
      exact record_plain _ counted lawful log.breaker.recordSuccess_plain
    | recordFailure =>
      cases ran
      exact record_plain _ counted lawful log.breaker.recordFailure_plain
    | fire timer =>
      rw [locked] at ran
      split at ran <;> cases ran
      exact record_plain _ counted lawful ⟨fun half => ⟨half, rfl⟩, by simp⟩
    | callback timer =>
      have ⟨opened, own⟩ := not_not.mp fun late => timely ⟨timer, rfl, late⟩
      exact record_timely lawful opened own ran
  · have ⟨⟨breaker, allowed, report⟩, ran, recorded⟩ := Option.map_eq_some_iff.mp stepped
    cases recorded
    obtain ⟨timer, rfl, late⟩ := late
    exact record_late lawful late ran

def lateCallback : List BreakerEvent :=
  [.recordFailure, .fire 0, .reset, .recordFailure, .callback 0]

/-- The late callback half-opens the breaker in place of the second opening's own timer. -/
theorem late_callback_half_opens :
    ((machine.run (start ⟨1, 0, 0⟩) lateCallback).map fun log =>
      (log.breaker.state, log.breaker.armed)) = some (.circuitHalfOpen, [1]) ∧
      ¬machine.Always Lawful (start ⟨1, 0, 0⟩) lateCallback := by
  refine ⟨rfl, fun always => ?_⟩
  have lawful := always lateCallback [] _ (append_nil _).symm rfl
  have ⟨timer, same⟩ := lawful.timely (.callback 0, some 1) mem_cons_self
  cases same

end BreakerLog

end Shuttle.Engine
