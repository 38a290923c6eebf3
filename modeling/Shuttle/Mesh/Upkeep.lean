import Shuttle.Lib.Lists
import Shuttle.Mesh.Connecting

/-!
# Upkeep of peers

What is kept for each peer besides its connection: the hole puncher that packets are handed to, the
generation of the ICE credentials, the fallback of the mesh client to the relay, and what decides
whether `retryLoop` connects again.
-/

namespace Shuttle.P2P

open Shuttle.Go Shuttle.Lib

/-! ## Hole punchers -/

inductive PunchStage where
  | punching
  | finished
  | cleared

structure Puncher (κ : Type) where
  peer : κ
  stage : PunchStage

structure HolePunching (κ : Type) where
  activeHPs : GoMap κ Nat
  punchers : List (Puncher κ)

inductive PunchEvent (κ : Type) where
  /-- `setActiveHolePuncher`, and `Punch` is called. -/
  | register (peer : κ)
  | finish (puncher : Nat)
  /-- `clearActiveHolePuncher` behind a call that has returned. -/
  | clear (puncher : Nat)

namespace HolePunching

variable {κ : Type} [DecidableEq κ] (state : HolePunching κ)

def step : PunchEvent κ → Option (HolePunching κ)
  | .register peer => some ⟨state.activeHPs.set peer state.punchers.length,
      state.punchers ++ [⟨peer, .punching⟩]⟩
  | .finish number =>
    match state.punchers[number]? with
    | some ⟨peer, .punching⟩ =>
      some { state with punchers := state.punchers.set number ⟨peer, .finished⟩ }
    | _ => none
  | .clear number =>
    match state.punchers[number]? with
    | some ⟨peer, .finished⟩ =>
      some ⟨state.activeHPs.delete peer, state.punchers.set number ⟨peer, .cleared⟩⟩
    | _ => none

def machine : Machine (HolePunching κ) (PunchEvent κ) := ⟨step⟩

/-- The punchers that `deliverToHolePuncher` hands a packet of a peer to. -/
def deliverTo (peer : κ) : List Nat := (state.activeHPs peer).toList

/-- A packet of any peer is handed to every puncher in progress for it. -/
def Delivers : Prop :=
  ∀ number peer, state.punchers[number]? = some ⟨peer, .punching⟩ → number ∈ state.deliverTo peer

/-- A puncher is registered or cleared while another one is in progress for the same peer. -/
def Interferes : PunchEvent κ → Prop
  | .register peer => ∃ other : Nat, state.punchers[other]? = some ⟨peer, .punching⟩
  | .finish _ => False
  | .clear number => ∃ peer, ∃ other : Nat, state.punchers[number]? = some ⟨peer, .finished⟩ ∧
      state.punchers[other]? = some ⟨peer, .punching⟩

variable {state} {next : HolePunching κ} {event : PunchEvent κ}

theorem delivers_iff (delivers : state.Delivers) (stepped : state.step event = some next) :
    next.Delivers ↔ ¬state.Interferes event := by
  simp only [Delivers, deliverTo, Option.mem_toList] at delivers ⊢
  cases event with
  | register peer =>
    cases stepped
    constructor
    · rintro kept ⟨other, inside⟩
      have bound := (List.getElem?_eq_some_iff.mp inside).1
      have own := kept other peer (by rw [List.getElem?_append_left bound, inside])
      simp [GoMap.set_eq_some_iff] at own
      omega
    · intro alone number other present
      rw [GoMap.set_eq_some_iff]
      rcases getElem?_append_cases present with ⟨last, same⟩ | ⟨_, old⟩
      · cases same
        exact .inl ⟨rfl, last.symm⟩
      · exact .inr ⟨fun same => alone ⟨number, same ▸ old⟩, delivers number other old⟩
  | finish number =>
    simp only [step] at stepped
    split at stepped <;> cases stepped
    refine iff_of_true (fun other peer present => ?_) id
    rcases getElem?_set_cases present with ⟨_, same⟩ | ⟨_, old⟩
    · cases same
    · exact delivers other peer old
  | clear number =>
    simp only [step] at stepped
    split at stepped <;> cases stepped
    rename_i peer found
    simp only [Interferes, found, GoMap.delete_eq_some_iff]
    constructor
    · rintro kept ⟨_, other, same, inside⟩
      cases same
      have apart : number ≠ other := by
        rintro rfl
        cases found.symm.trans inside
      exact (kept other peer (by rw [List.getElem?_set_ne apart, inside])).1 rfl
    · intro alone other own present
      rcases getElem?_set_cases present with ⟨_, same⟩ | ⟨_, old⟩
      · cases same
      · exact ⟨fun same => alone ⟨peer, other, rfl, same ▸ old⟩, delivers other own old⟩

end HolePunching

/-! ## ICE generations -/

/-- A message of one manager to the other; an end of candidates has `Manager.iceGeneration` of the
sender for its generation. -/
inductive ICESignal where
  | restart (generation : UInt16)
  | endOfCandidates

structure ICESide where
  generation : Int
  inbox : List ICESignal

/-- Two managers, by whether it is the first one. -/
abbrev ICEPair := Bool → ICESide

inductive ICEEvent where
  | restart
  | sendEndOfCandidates
  | receive

namespace ICEPair

/-- `Manager.iceGeneration`, which no function changes. -/
def iceGeneration : Int := 0

/-- What `handleICERestart` and `handleEndOfCandidates` store. -/
def received : ICESignal → Int
  | .restart generation => generation.toNat
  | .endOfCandidates => (UInt16.ofInt iceGeneration).toNat

def update (pair : ICEPair) (side : Bool) (changed : ICESide) (sent : List ICESignal) : ICEPair :=
  fun which => if which = side then changed
    else { pair which with inbox := (pair which).inbox ++ sent }

def step (pair : ICEPair) : Bool × ICEEvent → Option ICEPair
  | (side, .restart) =>
    let generation := (pair side).generation + 1
    some (pair.update side { pair side with generation } [.restart (UInt16.ofInt generation)])
  | (side, .sendEndOfCandidates) => some (pair.update side (pair side) [.endOfCandidates])
  | (side, .receive) =>
    match (pair side).inbox with
    | [] => none
    | message :: rest => some (pair.update side ⟨received message, rest⟩ [])

def machine : Machine ICEPair (Bool × ICEEvent) := ⟨step⟩

def start : ICEPair := fun _ => ⟨0, []⟩

variable (pair : ICEPair) (event : Bool × ICEEvent)

def Lowers : Prop :=
  ∃ next side, step pair event = some next ∧ (next side).generation < (pair side).generation

/-- No generation is lowered, in whatever order the messages in flight are handled. -/
def Safe : Prop := ∀ sides : List Bool, machine.Never Lowers pair (sides.map (·, .receive))

/-- What a manager keeps, now and as it handles the messages in flight to it. -/
def upcoming (side : ICESide) : List Int := side.generation :: side.inbox.map received

/-- What either manager keeps only grows as the messages in flight are handled. -/
def Rising : Prop := ∀ side, (upcoming (pair side)).Pairwise (· ≤ ·)

/-- A restart is triggered while a message in flight to the manager is not above the generation it
keeps, or its number is below what the other keeps or is about to; or an end of candidates is sent
to a manager that keeps a positive generation or is about to. -/
def Crosses : Prop :=
  match event with
  | (side, .restart) =>
    (∃ message ∈ (pair side).inbox, received message ≤ (pair side).generation) ∨
      ∃ kept ∈ upcoming (pair !side),
        received (.restart (UInt16.ofInt ((pair side).generation + 1))) < kept
  | (side, .sendEndOfCandidates) => ∃ kept ∈ upcoming (pair !side), 0 < kept
  | (_, .receive) => False

variable {pair event}

theorem lowers_update {side : Bool} {changed : ICESide} {sent : List ICESignal}
    (stepped : pair.step event = some (pair.update side changed sent)) :
    pair.Lowers event ↔ changed.generation < (pair side).generation := by
  constructor
  · rintro ⟨next, which, same, lower⟩
    cases stepped.symm.trans same
    unfold update at lower
    split at lower
    · simp_all
    · exact absurd lower (Int.lt_irrefl _)
  · intro lower
    exact ⟨_, side, stepped, by simpa [update] using lower⟩

/-- A message sent keeps what the receiver is about to keep growing if nothing there is above it. -/
theorem pairwise_upcoming_send {side : ICESide} (rising : (upcoming side).Pairwise (· ≤ ·))
    (message : ICESignal) :
    (upcoming { side with inbox := side.inbox ++ [message] }).Pairwise (· ≤ ·) ↔
      ∀ kept ∈ upcoming side, kept ≤ received message := by
  have appended : upcoming { side with inbox := side.inbox ++ [message] } =
      upcoming side ++ [received message] := by
    simp [upcoming]
  rw [appended, List.pairwise_append]
  simp [rising]

theorem rising_update {side : Bool} {changed : ICESide} {sent : List ICESignal} :
    (pair.update side changed sent).Rising ↔ (upcoming changed).Pairwise (· ≤ ·) ∧
      (upcoming { pair !side with inbox := (pair !side).inbox ++ sent }).Pairwise (· ≤ ·) := by
  unfold Rising update
  cases side <;> simp [and_comm]

/-- The joint invariant of what is kept and in flight is broken by the crossings only. -/
theorem Rising.step_iff {next : ICEPair} (rising : pair.Rising)
    (stepped : pair.step event = some next) : next.Rising ↔ ¬pair.Crosses event := by
  have ⟨side, event⟩ := event
  have other := rising !side
  cases event with
  | restart =>
    cases stepped
    rw [rising_update, pairwise_upcoming_send other, Crosses, not_or]
    refine and_congr ?_ (by simp)
    have ⟨_, inbox⟩ := List.pairwise_cons.mp (rising side)
    rw [upcoming, List.pairwise_cons, and_iff_left inbox]
    simp only [List.mem_map, forall_exists_index, and_imp, forall_apply_eq_imp_iff₂, not_exists,
      not_and, Int.not_le]
    exact Iff.rfl
  | sendEndOfCandidates =>
    cases stepped
    rw [rising_update, pairwise_upcoming_send other, Crosses, and_iff_right (rising side)]
    have zero : received .endOfCandidates = 0 := rfl
    simp [zero]
  | receive =>
    refine iff_of_true ?_ id
    cases waiting : (pair side).inbox with
    | nil => simp [step, waiting] at stepped
    | cons message rest =>
      simp only [step, waiting, Option.some.injEq] at stepped
      have own := rising side
      rw [upcoming, waiting] at own
      rw [← stepped, rising_update, List.append_nil]
      exact ⟨(List.pairwise_cons.mp own).2, other⟩

theorem Rising.not_lowers (rising : pair.Rising) : ¬pair.Lowers event := by
  have ⟨side, event⟩ := event
  cases event with
  | restart =>
    rw [lowers_update rfl]
    dsimp only
    omega
  | sendEndOfCandidates =>
    rw [lowers_update rfl]
    exact Int.lt_irrefl _
  | receive =>
    cases waiting : (pair side).inbox with
    | nil => simp [Lowers, step, waiting]
    | cons message rest =>
      have stepped : pair.step (side, .receive) =
          some (pair.update side ⟨received message, rest⟩ []) := by
        simp only [step, waiting]
      have own := rising side
      rw [upcoming, waiting] at own
      rw [lowers_update stepped, Int.not_lt]
      exact (List.pairwise_cons.mp own).1 _ List.mem_cons_self

theorem Safe.rising (safe : pair.Safe) (side : Bool) :
    (upcoming (pair side)).Pairwise (· ≤ ·) := by
  rw [upcoming]
  -- Handling the oldest waiting message leaves a safe pair with a shorter inbox.
  induction waiting : (pair side).inbox generalizing pair with
  | nil => exact List.pairwise_singleton _ _
  | cons message rest ih =>
    have stepped : pair.step (side, .receive) =
        some (pair.update side ⟨received message, rest⟩ []) := by
      simp only [step, waiting]
    have own : pair.update side ⟨received message, rest⟩ [] side = ⟨received message, rest⟩ := by
      simp [update]
    have handled (sides : List Bool) :=
      (Machine.never_cons_iff.mp (safe (side :: sides))) _ stepped
    have grows := Int.not_lt.mp (mt (lowers_update stepped).mpr (handled []).1)
    have later := ih (fun sides => (handled sides).2) (congrArg ICESide.inbox own)
    rw [own] at later
    refine List.pairwise_cons.mpr ⟨?_, later⟩
    refine List.forall_mem_cons.mpr ⟨grows, fun kept listed => ?_⟩
    exact Int.le_trans grows ((List.pairwise_cons.mp later).1 kept listed)

theorem safe_iff : pair.Safe ↔ pair.Rising := by
  refine ⟨Safe.rising, fun rising sides => ?_⟩
  induction sides generalizing pair with
  | nil => exact Machine.never_nil
  | cons side sides ih =>
    refine Machine.never_cons_iff.mpr fun next stepped => ⟨rising.not_lowers, ih ?_⟩
    have handled : pair.step (side, .receive) = some next := stepped
    exact (rising.step_iff handled).mpr id

/-- In every run of two managers no generation is lowered, also not by the messages in flight at the
end, exactly when no restart and no end of candidates crosses what the other has or is about to
have. -/
theorem generations_monotone_iff (events : List (Bool × ICEEvent)) :
    (machine.Always Safe start events ↔ machine.Never Crosses start events) ∧
      (machine.Never Crosses start events → machine.Never Lowers start events) := by
  have calm : start.Rising := fun _ => List.pairwise_singleton _ _
  have exactly : machine.Always Rising start events ↔ machine.Never Crosses start events :=
    Machine.always_iff_never (fun _ => True)
      (fun _ rising stepped => ⟨trivial, rising.step_iff stepped⟩) events trivial calm
  have same : Safe = Rising := funext fun _ => propext safe_iff
  rw [same]
  refine ⟨exactly, fun never before event after reached next split ran _ => ?_⟩
  exact (exactly.mpr never before (event :: after) reached split ran).not_lowers

/-- A restart, and then an end of candidates of the other manager. -/
theorem end_of_candidates_lowers :
    let events := [(true, .restart), (false, .sendEndOfCandidates), (true, .receive)]
    ((machine.run start (events.take 2)).map fun pair => (pair true).generation) = some 1 ∧
      ((machine.run start events).map fun pair => (pair true).generation) = some 0 := by
  decide

end ICEPair

/-! ## Fallback to the relay -/

/-- How a direct attempt ends: `Manager.SendPacket` returns no error when the relay has taken the
packet. -/
inductive SendOutcome where
  | written
  | relayed
  | failed
  deriving DecidableEq

/-- A call of `MeshClient.Send`: the peer, the time, and how a direct attempt would end. -/
structure MeshSend (κ : Type) where
  peer : κ
  now : Int
  outcome : SendOutcome

/-- The controller's state for a peer, and its last direct attempt while it uses the relay. -/
structure PeerFallbackState where
  usingRelay : Bool
  consecutiveFails : Nat
  lastDirectTry : Int
  lastAttempt : Option Int

/-- The client's controller, and whether what is promised of it was kept so far. -/
structure FallbackController (κ : Type) where
  peers : GoMap κ PeerFallbackState
  lawful : Bool

namespace FallbackController

/-- `FailureThreshold` of `NewMeshClientWithConfig`, which does not set it. -/
def failureThreshold : Nat := 0

def defaultThreshold : Nat := 3

variable {κ : Type} [DecidableEq κ] (interval : Int)

variable (controller : FallbackController κ) (state : PeerFallbackState)

def peerState (peer : κ) : PeerFallbackState :=
  (controller.peers peer).getD ⟨false, 0, 0, none⟩

/-- `GetDecision`: whether a direct attempt is made. -/
def direct (now : Int) : Bool :=
  !state.usingRelay || decide (interval < now - state.lastDirectTry)

/-- `RecordSuccess` or `RecordFailure`. -/
def record (now : Int) (outcome : SendOutcome) : PeerFallbackState :=
  let lastAttempt := if state.usingRelay then some now else none
  if outcome = .failed then
    let state := { state with consecutiveFails := state.consecutiveFails + 1, lastAttempt }
    if failureThreshold ≤ state.consecutiveFails ∧ state.usingRelay = false then
      { state with usingRelay := true, lastDirectTry := now }
    else state
  else { state with consecutiveFails := 0, usingRelay := false, lastAttempt }

/-- The relay is used after three failures in a row, direct attempts are apart meanwhile, and only
one that was written ends it. -/
def kept (now : Int) (outcome : SendOutcome) : Bool :=
  let after := record state now outcome
  (state.usingRelay || !after.usingRelay || decide (defaultThreshold ≤ after.consecutiveFails)) &&
    (!state.usingRelay || after.usingRelay || outcome = .written) &&
    (!state.usingRelay || state.lastAttempt.all (interval < now - ·))

def send (packet : MeshSend κ) : FallbackController κ :=
  let state := controller.peerState packet.peer
  if direct interval state packet.now then
    ⟨controller.peers.set packet.peer (record state packet.now packet.outcome),
      controller.lawful && kept interval state packet.now packet.outcome⟩
  else controller

def machine : Machine (FallbackController κ) (MeshSend κ) :=
  ⟨fun controller packet => some (controller.send interval packet)⟩

def Fails (packet : MeshSend κ) : Prop :=
  direct interval (controller.peerState packet.peer) packet.now = true ∧ packet.outcome = .failed

def AllDirect : Prop :=
  ∀ peer, (controller.peerState peer).usingRelay = false ∧
    (controller.peerState peer).consecutiveFails = 0

theorem AllDirect.send_iff {controller : FallbackController κ} {packet : MeshSend κ}
    (calm : controller.AllDirect) (lawful : controller.lawful = true) :
    (controller.send interval packet).lawful = true ↔ ¬Fails interval controller packet := by
  have ⟨off, fresh⟩ := calm packet.peer
  cases ended : packet.outcome <;>
    simp [send, direct, kept, record, off, fresh, lawful, Fails, ended, failureThreshold,
      defaultThreshold]

theorem AllDirect.send {controller : FallbackController κ} {packet : MeshSend κ}
    (calm : controller.AllDirect) (works : ¬Fails interval controller packet) :
    (controller.send interval packet).AllDirect := by
  intro peer
  have tried : direct interval (controller.peerState packet.peer) packet.now = true := by
    simp [direct, calm packet.peer]
  have succeeds : packet.outcome ≠ .failed := fun failed => works ⟨tried, failed⟩
  simp only [FallbackController.send, tried, if_true]
  by_cases own : peer = packet.peer
  · simp [peerState, GoMap.set, own, record, succeeds]
  · simpa [peerState, GoMap.set, own] using calm peer

/-- In every run of sends the promise is kept exactly as long as no direct attempt fails: the first
failure switches to the relay. -/
theorem fallback_lawful_iff_never_fails (sends : List (MeshSend κ)) :
    (machine interval).Always (·.lawful = true) ⟨GoMap.empty, true⟩ sends ↔
      (machine interval).Never (Fails interval) (⟨GoMap.empty, true⟩ : FallbackController κ)
        sends := by
  refine Machine.always_iff_never_of AllDirect (fun calm lawful stepped works => ?_)
    (fun calm lawful stepped fails kept => ?_) sends (fun _ => ⟨rfl, rfl⟩) rfl
  · cases stepped
    exact ⟨calm.send interval works, (calm.send_iff interval lawful).mpr works⟩
  · cases stepped
    exact (calm.send_iff interval lawful).mp kept fails

/-- One failed attempt switches to the relay, and a minute later an attempt that the relay carries
switches back. -/
theorem relay_flaps :
    let sends := [⟨(), 0, .failed⟩, ⟨(), 60 * 10 ^ 9 + 1, .relayed⟩]
    let relays (count : Nat) := ((machine (60 * 10 ^ 9)).run ⟨GoMap.empty, true⟩
      (sends.take count)).map fun controller =>
        ((controller.peerState ()).usingRelay, controller.lawful)
    relays 1 = some (true, false) ∧ relays 2 = some (false, false) := by
  decide

end FallbackController

/-! ## Retries -/

structure RetryPeer where
  state : ConnectionState
  useRelay : Bool
  failCount : Nat
  lastAttempt : Int

inductive RetryEvent where
  | connect (now : Int)
  | connected
  | attemptFails
  | sendFails
  | disconnect
  | restart

namespace RetryPeer

variable (peer : RetryPeer)

def connects : Bool := peer.state ≠ .connected && peer.state ≠ .connecting

def step : RetryEvent → Option RetryPeer
  | .connect now =>
    some (if peer.connects then { peer with state := .connecting, lastAttempt := now } else peer)
  | .connected => some { peer with state := .connected, failCount := 0, useRelay := false }
  | .attemptFails => some { peer with state := .failed, failCount := peer.failCount + 1 }
  | .sendFails =>
    if peer.state = .connected ∧ peer.useRelay = false then
      some { peer with
        failCount := peer.failCount + 1
        useRelay := decide (3 ≤ peer.failCount + 1) }
    else none
  | .disconnect => some { peer with state := .disconnected }
  | .restart => some { peer with state := .disconnected, useRelay := false }

/-- A tick of `retryLoop` calls `Connect`, and it begins a handshake. -/
def starts (interval now : Int) : Bool :=
  peer.useRelay && interval < now - peer.lastAttempt && peer.connects

/-- Every tick begins a handshake when the peer has failed or is relayed. -/
def Retried (interval : Int) : Prop :=
  ∀ now, (peer.state = .failed ∨ peer.useRelay = true) → peer.state ≠ .connecting →
    interval < now - peer.lastAttempt → peer.starts interval now = true

/-- An attempt fails for a peer that is not relayed, or a connected peer comes to be relayed. -/
def Strands : RetryEvent → Prop
  | .attemptFails => peer.useRelay = false
  | .sendFails => 3 ≤ peer.failCount + 1
  | _ => False

theorem retried_iff (interval : Int) : peer.Retried interval ↔
    ¬(peer.state = .failed ∧ peer.useRelay = false) ∧
      ¬(peer.state = .connected ∧ peer.useRelay = true) := by
  constructor
  · intro retried
    have tick := retried (peer.lastAttempt + interval + 1)
    grind [starts, connects]
  · intro fine
    grind [Retried, starts, connects]

theorem retried_step_iff {interval : Int} {next : RetryPeer} {event : RetryEvent}
    (retried : peer.Retried interval) (stepped : peer.step event = some next) :
    next.Retried interval ↔ ¬peer.Strands event := by
  rw [retried_iff] at retried ⊢
  cases event <;> grind [step, Strands, connects]

end RetryPeer

/-- The peers of a manager by their key; one that was not met is as a new one. -/
def RetryPeer.machine {κ : Type} [DecidableEq κ] : Machine (κ → RetryPeer) (κ × RetryEvent) where
  step peers event := ((peers event.1).step event.2).map (Function.update peers event.1)

/-- In every run all failed and relayed peers are retried exactly when no attempt fails for a peer
that is not relayed and no connected peer comes to be relayed. -/
theorem RetryPeer.retried_iff_never_strands {κ : Type} [DecidableEq κ] (interval : Int)
    (events : List (κ × RetryEvent)) :
    machine.Always (fun peers => ∀ key, (peers key).Retried interval)
        (fun _ => ⟨.disconnected, false, 0, 0⟩) events ↔
      machine.Never (fun peers event => (peers event.1).Strands event.2)
        (fun _ : κ => ⟨.disconnected, false, 0, 0⟩) events := by
  refine Machine.always_iff_never (fun _ => True) (fun {peers _ event} _ retried stepped => ?_)
    events trivial fun _ => (retried_iff _ interval).mpr ⟨nofun, nofun⟩
  obtain ⟨next, changed, rfl⟩ := Option.map_eq_some_iff.mp stepped
  have exactly := (peers event.1).retried_step_iff (retried _) changed
  refine ⟨trivial, Iff.trans ⟨fun all => ?_, fun own key => ?_⟩ exactly⟩
  · have own := all event.1
    rwa [Function.update_self] at own
  · by_cases same : key = event.1
    · rwa [same, Function.update_self]
    · rw [Function.update_of_ne same]
      exact retried key

/-- A peer whose first attempt fails is not retried. -/
theorem RetryPeer.failed_not_retried :
    ((machine.run (fun _ : Unit => ⟨.disconnected, false, 0, 0⟩)
      [((), .connect 0), ((), .attemptFails)]).map fun peers =>
        ((peers ()).state, (peers ()).starts (60 * 10 ^ 9) (10 ^ 15))) =
      some (.failed, false) := by
  decide

end Shuttle.P2P
