import Shuttle.Lib.Machine

/-!
# The states of an ICE agent

Calls on an agent set its gathering and connection state before the steps that may fail. A restart
keeps the flags of the session before it. Goroutines look at the done channel only between long
steps and then write what they found, also into an agent that was closed meanwhile. A run is an
interleaving of the sections that hold the lock.
-/

namespace Shuttle.ICEAgent

open Shuttle.Lib List

inductive Gathering where
  | new
  | gathering
  | complete
deriving DecidableEq

inductive Connection where
  | new
  | checking
  | connected
  | completed
  | failed
  | disconnected
  | closed
deriving DecidableEq

/-- What is under way between two sections that hold the lock. -/
inductive Task where
  /-- `GatherCandidates` waits for its gatherer, for a restart or not. -/
  | gather (restarting : Bool)
  | gatherAsync
  /-- A plain or trickle connectivity check. -/
  | check
  | waitForConnection
  /-- `Restart` before it gathers, with the connection it found. -/
  | restart (oldConn : Option Nat)
deriving DecidableEq

structure Agent where
  gatheringState : Gathering := .new
  connectionState : Connection := .new
  conn : Option Nat := none
  trickleEnabled : Bool
  /-- State and socket of the trickle gatherer. -/
  trickleState : Gathering := .new
  localConn : Option Nat := none
  remoteGatheringDone : Bool := false
  checksStarted : Bool := false
  pendingRestart : Bool := false
  done : Bool := false
  closedConns : List Nat := []
  tasks : List Task := []
deriving DecidableEq

namespace Agent

variable (agent : Agent)

def start (task : Task) : Agent := { agent with tasks := task :: agent.tasks }

/-! Each call yields the agent and whether an error is returned. -/

/-- `GatherCandidates` once its gatherer has returned, with a socket or an error. -/
def gathered (result : Option Nat) : Agent × Bool :=
  match result with
  | none => ({ agent with gatheringState := .new }, true)
  | some conn => ({ agent with conn := some conn, gatheringState := .complete }, false)

def gatherCandidates (result : Option Nat) : Agent × Bool :=
  if agent.gatheringState = .gathering then (agent, false)
  else { agent with gatheringState := .gathering }.gathered result

/-- Trickle gathering with this connection set, on a socket that may fail to open. -/
def gatherTrickle (conn socket : Option Nat) : Agent × Bool :=
  if !agent.trickleEnabled then (agent, true)
  else if agent.gatheringState = .gathering then (agent, false)
  else
    let agent := { agent with gatheringState := .gathering, conn }
    if agent.trickleState ≠ .new ∨ socket = none then (agent, true)
    else ({ agent with trickleState := .gathering, localConn := socket }.start .gatherAsync, false)

def gatherCandidatesTrickle (listened : Option Nat) : Agent × Bool :=
  agent.gatherTrickle agent.conn listened

def gatherCandidatesTrickleWithConnection (conn : Nat) : Agent × Bool :=
  agent.gatherTrickle (some conn) (some conn)

/-- Checks may start in this state. -/
def Startable : Prop := agent.connectionState = .new ∨ agent.connectionState = .disconnected

instance : Decidable agent.Startable := inferInstanceAs (Decidable (_ ∨ _))

def startConnectivityChecks : Agent × Bool :=
  if ¬agent.Startable then (agent, true)
  else
    let agent := { agent with connectionState := .checking }
    if agent.conn = none then (agent, true) else (agent.start .check, false)

def setRemoteGatheringDone : Agent := { agent with remoteGatheringDone := true }

def startConnectivityChecksTrickle : Agent × Bool :=
  if !agent.trickleEnabled then (agent, true)
  else if agent.checksStarted then (agent, false)
  else if ¬agent.Startable then (agent, true)
  else
    ({ agent with checksStarted := true, connectionState := .checking }.start
      (if agent.conn = none then .waitForConnection else .check), false)

def onLocalGatheringComplete : Agent :=
  { agent with
    gatheringState := .complete
    trickleState := .complete
    conn := agent.conn.or agent.localConn }

/-- The first section of `Restart`. -/
def begun : Agent :=
  { agent with pendingRestart := true, gatheringState := .new, connectionState := .new }

def close : Agent :=
  if agent.done then agent
  else
    { agent with
      done := true
      connectionState := .closed
      conn := none
      closedConns := agent.conn.toList ++ agent.closedConns }

end Agent

/-! ## Calls that fail -/

inductive Call where
  | gatherCandidates (result : Option Nat)
  | gatherCandidatesTrickle (listened : Option Nat)
  | gatherCandidatesTrickleWithConnection (conn : Nat)
  | startConnectivityChecks
  | startConnectivityChecksTrickle

def Call.perform (agent : Agent) : Call → Agent × Bool
  | gatherCandidates result => agent.gatherCandidates result
  | gatherCandidatesTrickle listened => agent.gatherCandidatesTrickle listened
  | gatherCandidatesTrickleWithConnection conn => agent.gatherCandidatesTrickleWithConnection conn
  | startConnectivityChecks => agent.startConnectivityChecks
  | startConnectivityChecksTrickle => agent.startConnectivityChecksTrickle

/-- Calls that fail and leave another state: gathering anew, trickle gathering that the gatherer
refuses, and checks without a connection. -/
def Call.Spoils (agent : Agent) : Call → Prop
  | gatherCandidates result => result = none ∧ agent.gatheringState = .complete
  | gatherCandidatesTrickle listened => agent.trickleEnabled ∧ agent.gatheringState ≠ .gathering ∧
      (agent.trickleState ≠ .new ∨ listened = none)
  | gatherCandidatesTrickleWithConnection _ =>
    agent.trickleEnabled ∧ agent.gatheringState ≠ .gathering ∧ agent.trickleState ≠ .new
  | startConnectivityChecks => agent.Startable ∧ agent.conn = none
  | startConnectivityChecksTrickle => False

theorem gatherTrickle_unchanged_iff (agent : Agent) (conn socket : Option Nat) :
    ((agent.gatherTrickle conn socket).2 = true →
      (agent.gatherTrickle conn socket).1.gatheringState = agent.gatheringState ∧
        (agent.gatherTrickle conn socket).1.connectionState = agent.connectionState) ↔
      ¬(agent.trickleEnabled ∧ agent.gatheringState ≠ .gathering ∧
        (agent.trickleState ≠ .new ∨ socket = none)) := by
  rw [Agent.gatherTrickle]
  split
  case isTrue disabled => simp_all
  split
  case isTrue busy => simp [busy]
  case isFalse enabled idle =>
    have changed : Gathering.gathering ≠ agent.gatheringState := Ne.symm idle
    dsimp only
    split <;> simp_all

/-- A call that returns an error leaves both states as they were, unless it is one of those. -/
theorem failed_call_unchanged_iff (agent : Agent) (call : Call) :
    ((call.perform agent).2 = true →
      (call.perform agent).1.gatheringState = agent.gatheringState ∧
        (call.perform agent).1.connectionState = agent.connectionState) ↔
      ¬call.Spoils agent := by
  cases call with
  | gatherCandidates result =>
    simp only [Call.perform, Call.Spoils, Agent.gatherCandidates]
    split
    case isTrue busy => simp [busy]
    case isFalse idle =>
      cases result with
      | none => cases state : agent.gatheringState <;> simp_all [Agent.gathered]
      | some conn => simp [Agent.gathered]
  | gatherCandidatesTrickle listened => exact gatherTrickle_unchanged_iff agent agent.conn listened
  | gatherCandidatesTrickleWithConnection conn =>
    have given := gatherTrickle_unchanged_iff agent (some conn) (some conn)
    simp only [reduceCtorEq, or_false] at given
    exact given
  | startConnectivityChecks =>
    simp only [Call.perform, Call.Spoils, Agent.startConnectivityChecks]
    split
    case isTrue refused => simp [refused]
    case isFalse startable =>
      split <;> rcases not_not.mp startable with state | state <;> simp_all [Agent.Startable]
  | startConnectivityChecksTrickle =>
    simp only [Call.perform, Call.Spoils, Agent.startConnectivityChecksTrickle]
    split_ifs <;> simp

/-- Checks of an agent without a connection fail, and later ones are refused. -/
theorem failed_checks_refused_later :
    let failed := Agent.startConnectivityChecks { trickleEnabled := false }
    failed.2 = true ∧ failed.1.connectionState = .checking ∧
      ((failed.1.gatherCandidates (some 0)).1.startConnectivityChecks).2 = true := by
  decide

/-! ## Runs -/

inductive Event where
  /-- `GatherCandidates` begins. -/
  | gather
  | gathered (restarting : Bool) (result : Option Nat)
  | gatherTrickle (listened : Option Nat)
  | gatherTrickleWithConnection (conn : Nat)
  | gatheringComplete
  | startChecks
  | setRemoteGatheringDone
  | startChecksTrickle
  /-- A check connects, or all have failed. -/
  | checked (success : Bool)
  /-- A check or the wait for a connection ends on what it sees. -/
  | stopped (waiting : Bool)
  /-- The wait for a connection finds one. -/
  | connected
  | timedOut
  /-- `Restart` begins after its cooldown. -/
  | restart
  | regather (oldConn : Option Nat) (reused : Bool)
  | close

/-- The task that an event ends. -/
def Event.task : Event → Option Task
  | gathered restarting _ => some (.gather restarting)
  | gatheringComplete => some .gatherAsync
  | checked _ => some .check
  | stopped waiting => some (if waiting then .waitForConnection else .check)
  | connected | timedOut => some .waitForConnection
  | regather oldConn _ => some (.restart oldConn)
  | _ => none

def Event.apply (agent : Agent) : Event → Agent
  | gather =>
    if agent.gatheringState = .gathering then agent
    else { agent with gatheringState := .gathering }.start (.gather false)
  | gathered restarting result =>
    { (agent.gathered result).1 with pendingRestart := agent.pendingRestart && !restarting }
  | gatherTrickle listened => (agent.gatherCandidatesTrickle listened).1
  | gatherTrickleWithConnection conn => (agent.gatherCandidatesTrickleWithConnection conn).1
  | gatheringComplete => agent.onLocalGatheringComplete
  | startChecks => agent.startConnectivityChecks.1
  | setRemoteGatheringDone => agent.setRemoteGatheringDone
  | startChecksTrickle => agent.startConnectivityChecksTrickle.1
  | checked success =>
    { agent with connectionState := if success then .connected else .failed }
  | stopped _ => agent
  | connected => agent.start .check
  | timedOut => { agent with connectionState := .failed }
  | restart => if agent.pendingRestart then agent else agent.begun.start (.restart agent.conn)
  | regather oldConn reused =>
    if oldConn.isSome && reused then
      { agent with gatheringState := .complete, pendingRestart := false }
    else if agent.gatheringState = .gathering then { agent with pendingRestart := false }
    else { agent with gatheringState := .gathering }.start (.gather true)
  | close => agent.close

def machine : Machine Agent Event where
  step agent event :=
    match event.task with
    | none => some (event.apply agent)
    | some task =>
      if task ∈ agent.tasks then
        some (event.apply { agent with tasks := agent.tasks.erase task })
      else none

/-! ## Restarts -/

namespace Agent

/-- What the steps that only gather leave alone. -/
def session (agent : Agent) : Bool × Bool × Connection × Bool × Bool :=
  (agent.trickleEnabled, agent.checksStarted, agent.connectionState, agent.remoteGatheringDone,
    agent.done)

/-- Trickle checks of the agent start when they are asked for, and go on. -/
def Ready (agent : Agent) : Prop :=
  agent.trickleEnabled = true ∧ agent.checksStarted = false ∧ agent.done = false ∧ agent.Startable

theorem gatherTrickle_session (agent : Agent) (conn socket : Option Nat) :
    (agent.gatherTrickle conn socket).1.session = agent.session := by
  rw [gatherTrickle]
  dsimp only
  split_ifs <;> rfl

end Agent

/-- Steps that gather, or end a check without a result. -/
def Event.Gathers : Event → Prop
  | gather | gathered _ _ | gatherTrickle _ | gatherTrickleWithConnection _ => True
  | gatheringComplete | stopped _ | connected | regather _ _ => True
  | _ => False

/-- Steps that leave the state New: checks of the old session that end, checks that are started, and
closing. -/
def Overtakes : Event → Prop
  | .checked _ | .timedOut | .startChecks | .startChecksTrickle | .close => True
  | _ => False

section
variable {agent : Agent} {event : Event}

theorem session_apply (gathers : event.Gathers) :
    (event.apply agent).session = agent.session := by
  cases event with
  | gather =>
    simp only [Event.apply]
    split <;> rfl
  | gathered restarting result => cases result <;> rfl
  | gatherTrickle listened => exact agent.gatherTrickle_session agent.conn listened
  | gatherTrickleWithConnection conn => exact agent.gatherTrickle_session (some conn) (some conn)
  | gatheringComplete | stopped _ | connected => rfl
  | regather oldConn reused =>
    simp only [Event.apply]
    split_ifs <;> rfl
  | startChecks | setRemoteGatheringDone | startChecksTrickle | checked _ | timedOut | restart
  | close => exact gathers.elim

theorem ready_congr {other : Agent} (same : agent.session = other.session) :
    agent.Ready ↔ other.Ready := by
  simp only [Agent.session, Prod.mk.injEq] at same
  simp only [Agent.Ready, Agent.Startable, same]

theorem remoteGatheringDone_congr {other : Agent} (same : agent.session = other.session) :
    agent.remoteGatheringDone = other.remoteGatheringDone :=
  congrArg (·.2.2.2.1) same

/-- Checks that are started, or refused, leave a state in which none may start. -/
theorem startConnectivityChecks_not_startable :
    ¬agent.startConnectivityChecks.1.Startable := by
  simp only [Agent.startConnectivityChecks]
  split_ifs <;> simp_all [Agent.Startable, Agent.start]

theorem ready_apply (other : event ≠ .restart) :
    (event.apply agent).Ready ↔ agent.Ready ∧ ¬Overtakes event := by
  cases event with
  | gather | gathered _ _ | gatherTrickle _ | gatherTrickleWithConnection _ | gatheringComplete
  | stopped _ | connected | regather _ _ =>
    exact (ready_congr (session_apply (by trivial))).trans (and_iff_left id).symm
  | setRemoteGatheringDone => exact (and_iff_left id).symm
  | startChecks =>
    exact iff_of_false (fun ready => startConnectivityChecks_not_startable ready.2.2.2)
      (fun both => both.2 trivial)
  | startChecksTrickle =>
    refine iff_of_false ?_ (fun both => both.2 trivial)
    simp only [Event.apply, Agent.startConnectivityChecksTrickle]
    split_ifs <;> simp_all [Agent.Ready, Agent.start]
  | checked success =>
    refine iff_of_false ?_ (fun both => both.2 trivial)
    cases success <;> simp [Event.apply, Agent.Ready, Agent.Startable]
  | timedOut =>
    refine iff_of_false ?_ (fun both => both.2 trivial)
    simp [Event.apply, Agent.Ready, Agent.Startable]
  | restart => exact absurd rfl other
  | close =>
    refine iff_of_false ?_ (fun both => both.2 trivial)
    simp only [Event.apply, Agent.close]
    split <;> simp_all [Agent.Ready]

theorem remoteGatheringDone_apply :
    (event.apply agent).remoteGatheringDone = true ↔
      agent.remoteGatheringDone = true ∨ event = .setRemoteGatheringDone := by
  cases event with
  | gather | gathered _ _ | gatherTrickle _ | gatherTrickleWithConnection _ | gatheringComplete
  | stopped _ | connected | regather _ _ =>
    rw [remoteGatheringDone_congr (session_apply (by trivial))]
    simp
  | setRemoteGatheringDone => exact iff_of_true rfl (.inr rfl)
  | checked _ | timedOut => simp [Event.apply]
  | startChecks =>
    simp only [Event.apply, Agent.startConnectivityChecks]
    split_ifs <;> simp [Agent.start]
  | startChecksTrickle =>
    simp only [Event.apply, Agent.startConnectivityChecksTrickle]
    split_ifs <;> simp [Agent.start]
  | restart =>
    simp only [Event.apply]
    split <;> simp [Agent.begun, Agent.start]
  | close =>
    simp only [Event.apply, Agent.close]
    split <;> simp

/-- A step applies its event, to the agent with the task that it ends taken off. -/
theorem step_eq_some {next : Agent} (stepped : machine.step agent event = some next) :
    ∃ tasks, next = event.apply { agent with tasks } := by
  simp only [machine] at stepped
  split at stepped
  · exact ⟨agent.tasks, (Option.some.inj stepped).symm⟩
  · exact ⟨_, (Option.some.inj (Option.ite_none_right_eq_some.mp stepped).2).symm⟩

theorem ready_run {next : Agent} {events : List Event} (last : .restart ∉ events)
    (ran : machine.run agent events = some next) :
    next.Ready ↔ agent.Ready ∧ ∀ event ∈ events, ¬Overtakes event := by
  induction events generalizing agent with
  | nil =>
    cases ran
    simp
  | cons event events ih =>
    have ⟨reached, stepped, rest⟩ := Machine.run_cons_some ran
    have ⟨tasks, applied⟩ := step_eq_some stepped
    have ⟨other, later⟩ := not_or.mp (mt mem_cons.mpr last)
    rw [ih later rest, applied, ready_apply (Ne.symm other), forall_mem_cons, and_assoc]
    exact Iff.rfl

theorem remoteGatheringDone_run {next : Agent} {events : List Event}
    (ran : machine.run agent events = some next) :
    next.remoteGatheringDone = true ↔
      agent.remoteGatheringDone = true ∨ .setRemoteGatheringDone ∈ events := by
  induction events generalizing agent with
  | nil =>
    cases ran
    simp
  | cons event events ih =>
    have ⟨reached, stepped, rest⟩ := Machine.run_cons_some ran
    have ⟨tasks, applied⟩ := step_eq_some stepped
    rw [ih rest, applied, remoteGatheringDone_apply, mem_cons, or_assoc,
      eq_comm (a := Event.setRemoteGatheringDone)]

/-- Trickle checks of an open agent start exactly if it is ready. -/
theorem startConnectivityChecksTrickle_starts_iff :
    (agent.startConnectivityChecksTrickle.1.done = false ∧
      agent.startConnectivityChecksTrickle.1.connectionState = .checking ∧
      agent.startConnectivityChecksTrickle.1.tasks ≠ agent.tasks) ↔ agent.Ready := by
  simp only [Agent.startConnectivityChecksTrickle, Agent.Ready]
  split_ifs <;> simp_all [Agent.start]

end

/-- A restart of an agent of any history lets trickle checks start, with only the end of candidates
that came since, exactly if they were not started before, and since the restart no check of the old
session has ended, none was started and the agent was not closed. It makes no difference how the
gathering of the restart ends. -/
theorem restart_fresh_iff {agent next : Agent} (enabled : agent.trickleEnabled = true)
    (accepted : agent.pendingRestart = false) (later : List Event) (last : .restart ∉ later)
    (ran : machine.run agent (.restart :: later) = some next) :
    let checked := next.startConnectivityChecksTrickle.1
    (checked.done = false ∧ checked.connectionState = .checking ∧ checked.tasks ≠ next.tasks ∧
        (next.remoteGatheringDone = true → .setRemoteGatheringDone ∈ later)) ↔
      agent.checksStarted = false ∧ agent.done = false ∧ (∀ event ∈ later, ¬Overtakes event) ∧
        (agent.remoteGatheringDone = true → .setRemoteGatheringDone ∈ later) := by
  intro checked
  have ⟨begun, began, rest⟩ := Machine.run_cons_some ran
  have restarted : begun = agent.begun.start (.restart agent.conn) := by
    simp only [machine, Event.task, Event.apply, accepted] at began
    exact (Option.some.inj began).symm
  have fresh : begun.Ready ↔ agent.checksStarted = false ∧ agent.done = false := by
    rw [restarted]
    exact (and_iff_right enabled).trans (and_congr_right fun _ => and_iff_left (.inl rfl))
  have starts := @startConnectivityChecksTrickle_starts_iff next
  rw [ready_run last rest, fresh] at starts
  have counts : (next.remoteGatheringDone = true → .setRemoteGatheringDone ∈ later) ↔
      (agent.remoteGatheringDone = true → .setRemoteGatheringDone ∈ later) := by
    simp [remoteGatheringDone_run ran, or_imp]
  constructor
  · rintro ⟨opened, checking, started, since⟩
    have ⟨⟨unchecked, unclosed⟩, calm⟩ := starts.mp ⟨opened, checking, started⟩
    exact ⟨unchecked, unclosed, calm, counts.mp since⟩
  · rintro ⟨unchecked, unclosed, calm, since⟩
    have ⟨opened, checking, started⟩ := starts.mpr ⟨⟨unchecked, unclosed⟩, calm⟩
    exact ⟨opened, checking, started, counts.mpr since⟩

/-- An agent that got an end of candidates is restarted while a plain check is under way, and
trickle checks start behind a new end of candidates. -/
theorem unchecked_agent_restarts :
    let agent : Agent :=
      { trickleEnabled := true, gatheringState := .complete, conn := some 0,
        connectionState := .checking, remoteGatheringDone := true, tasks := [.check] }
    machine.run { trickleEnabled := true }
        [.gather, .gathered false (some 0), .setRemoteGatheringDone, .startChecks] = some agent ∧
      ∃ next, machine.run agent [.restart, .regather (some 0) true, .setRemoteGatheringDone] =
          some next ∧
        next.startConnectivityChecksTrickle.1.connectionState = .checking := by
  intro agent
  have starts := @restart_fresh_iff agent _ rfl rfl
    [.regather (some 0) true, .setRemoteGatheringDone] (by simp) rfl
  exact ⟨rfl, _, rfl, (starts.mpr ⟨rfl, rfl, by simp [Overtakes], by simp⟩).2.1⟩

/-- A session whose trickle checks have started is restarted, and new checks do not start. -/
theorem restart_keeps_flags :
    ∃ next, machine.run { trickleEnabled := true }
        [.gatherTrickleWithConnection 0, .startChecksTrickle, .restart, .regather (some 0) true] =
          some next ∧
      next.pendingRestart = false ∧ next.gatheringState = .complete ∧
      next.startConnectivityChecksTrickle = (next, false) ∧ next.connectionState = .new :=
  ⟨_, rfl, rfl, rfl, rfl, rfl⟩

/-! ## Closing -/

/-- A closed agent is in the state Closed and holds no open socket. -/
def Terminal (agent : Agent) : Prop :=
  agent.done = true → agent.connectionState = .closed ∧
    ∀ conn, agent.conn = some conn → conn ∈ agent.closedConns

/-- Steps that write a state or an open socket into a closed agent. -/
def Revives (agent : Agent) (event : Event) : Prop :=
  agent.done = true ∧ match event with
    | .gathered _ result => ∃ conn, result = some conn ∧ conn ∉ agent.closedConns
    | .gatherTrickleWithConnection conn => agent.trickleEnabled = true ∧
        agent.gatheringState ≠ .gathering ∧ conn ∉ agent.closedConns
    | .gatheringComplete => agent.conn = none ∧
        ∃ conn, agent.localConn = some conn ∧ conn ∉ agent.closedConns
    | .checked _ | .timedOut => True
    | .restart => agent.pendingRestart = false
    | _ => False

theorem Terminal.not_startable {agent : Agent} (terminal : Terminal agent)
    (closed : agent.done = true) : ¬agent.Startable := by
  rw [Agent.Startable, (terminal closed).1]
  decide

theorem terminal_apply {agent : Agent} (terminal : Terminal agent) (event : Event) :
    Terminal (event.apply agent) ↔ ¬Revives agent event := by
  cases event with
  | gathered restarting result =>
    cases result with
    | none => exact iff_of_true terminal nofun
    | some conn => grind [Terminal, Revives, Event.apply, Agent.gathered]
  | gatheringComplete =>
    cases held : agent.conn <;>
      simp_all [Terminal, Revives, Event.apply, Agent.onLocalGatheringComplete]
  | gather =>
    simp only [Event.apply]
    split <;> exact iff_of_true terminal And.right
  | gatherTrickle listened =>
    simp only [Event.apply, Agent.gatherCandidatesTrickle, Agent.gatherTrickle]
    split_ifs <;> exact iff_of_true terminal And.right
  | gatherTrickleWithConnection conn =>
    simp only [Event.apply, Agent.gatherCandidatesTrickleWithConnection, Agent.gatherTrickle]
    split_ifs <;> simp_all [Terminal, Revives, Agent.start]
  | startChecks =>
    refine iff_of_true ?_ And.right
    simp only [Event.apply, Agent.startConnectivityChecks]
    split
    case isTrue => exact terminal
    case isFalse startable =>
      split <;> exact fun closed => absurd (terminal.not_startable closed) startable
  | startChecksTrickle =>
    refine iff_of_true ?_ And.right
    simp only [Event.apply, Agent.startConnectivityChecksTrickle]
    split
    case isTrue => exact terminal
    split
    case isTrue => exact terminal
    split
    case isTrue => exact terminal
    case isFalse startable =>
      exact fun closed => absurd (terminal.not_startable closed) startable
  | checked success => cases success <;> simp [Terminal, Revives, Event.apply]
  | timedOut => simp [Terminal, Revives, Event.apply]
  | setRemoteGatheringDone | stopped _ | connected => exact iff_of_true terminal And.right
  | restart =>
    simp only [Event.apply]
    split <;> simp_all [Terminal, Revives, Agent.begun, Agent.start]
  | regather oldConn reused =>
    simp only [Event.apply]
    split_ifs <;> exact iff_of_true terminal And.right
  | close =>
    simp only [Event.apply, Agent.close]
    split
    · exact iff_of_true terminal And.right
    · exact iff_of_true (fun _ => ⟨rfl, nofun⟩) And.right

/-- Along a run a closed agent stays closed and without an open socket exactly if no step revives
it. -/
theorem terminal_iff_never_revived (trickleEnabled : Bool) (events : List Event) :
    machine.Always Terminal { trickleEnabled } events ↔
      machine.Never Revives { trickleEnabled } events := by
  have decides {agent next : Agent} {event : Event} (terminal : Terminal agent)
      (stepped : machine.step agent event = some next) : Terminal next ↔ ¬Revives agent event := by
    have ⟨tasks, applied⟩ := step_eq_some stepped
    rw [applied]
    exact @terminal_apply { agent with tasks } terminal event
  exact Machine.always_iff_never (fun _ => True)
    (fun _ terminal stepped => ⟨trivial, decides terminal stepped⟩) events trivial nofun

/-- A check under way connects an agent that was closed. -/
theorem closed_agent_connects :
    ¬machine.Always Terminal { trickleEnabled := true }
      [.gatherTrickleWithConnection 0, .startChecksTrickle, .close, .checked true] := by
  intro always
  have terminal := always _ [] _ (append_nil _).symm (rfl : _ = some _)
  exact absurd (terminal rfl).1 (by decide)

end Shuttle.ICEAgent
