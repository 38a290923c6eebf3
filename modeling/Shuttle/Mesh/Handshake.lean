import Shuttle.Lib.Machine
import Shuttle.Mesh.SignalMessages

/-!
# The signaling handshake

One party runs `Handshake` of `mesh/signal/client.go`: it sends its candidates, waits for those of
its peer, sends a connection request and waits for the acknowledgment. The peer runs the handlers of
`mesh/p2p/manager_connection.go`. Messages are delivered in order, and handlers run in goroutines,
so at any time later and in any order.
-/

namespace Shuttle.Mesh

open Shuttle.Go Shuttle.Lib List

/-! ## Parties -/

structure Parties where
  localVIP : IP
  remoteVIP : IP
  localPublicKey : { key : List UInt8 // key.length = 32 }
  localPub : { key : List UInt8 // key.length = 32 }
  localCandidates : List CandidateInfo
  candidateInfos : List CandidateInfo

inductive Stage where
  | start
  | registered
  | awaitingCandidates
  /-- The candidates of the peer have come, and the callback is removed. -/
  | exchanged (remote : List CandidateInfo)
  | connecting (remote : List CandidateInfo)
  /-- The channel for the acknowledgment is registered, and the acknowledgment awaited. -/
  | awaitingAck (remote : List CandidateInfo)
  /-- The acknowledgment has come, and the channel is removed. -/
  | acknowledged (remote : List CandidateInfo) (ackMsg : Message)
  | succeeded (remote : List CandidateInfo) (connectInfo : ConnectInfo)
  | failed

namespace Stage

def listens : Stage → Bool
  | registered => true
  | awaitingCandidates => true
  | _ => false

def isPending : Stage → Bool
  | awaitingAck _ => true
  | _ => false

/-- Whether the initiator has not got the candidates of its peer. -/
def early : Stage → Bool
  | start => true
  | registered => true
  | awaitingCandidates => true
  | failed => true
  | _ => false

def running : Stage → Bool
  | succeeded _ _ => false
  | failed => false
  | _ => true

end Stage

inductive Handler where
  | candidates (msg : Message)
  | connect (msg : Message)
  /-- It runs `handleConnect` and has sent the candidates. -/
  | respond (srcVIP : IP)

structure Signaling where
  stage : Stage
  /-- Channel that its callback sends the candidates on; it holds one list. -/
  remoteCh : Option (List CandidateInfo)
  /-- Channel that its loop sends the acknowledgment on; it holds one message. -/
  ackCh : Option Message
  callbacks : List Message
  toHub : List Message
  toResponder : List Message
  handlers : List Handler
  peerCandidates : List CandidateInfo
  fromResponder : List Message
  toInitiator : List Message

namespace Signaling

def initial : Signaling := ⟨.start, none, none, [], [], [], [], [], [], []⟩

inductive Event where
  | register
  | sendCandidates
  | takeCandidates
  | sendConnect
  | awaitAck
  | takeAck
  | decodeAck
  | timeout
  | receive
  | callback (index : Nat)
  | forward
  | backward
  | accept
  | handle (index : Nat)

variable (parties : Parties)

/-- The goroutines that the responder's loop starts for a message. -/
def spawned (msg : Message) : List Handler :=
  if msg.type = signalCandidate then [.candidates msg]
  else if msg.type = signalConnect then [.connect msg]
  else []

variable (state : Signaling)

/-- A handler of the responder goes on; what cannot be decoded is ignored. -/
def handleStep (index : Nat) : Handler → Signaling
  | .candidates msg =>
    match decodeCandidates msg.payload with
    | .error _ => { state with handlers := state.handlers.eraseIdx index }
    | .ok candidates =>
      { state with handlers := state.handlers.eraseIdx index, peerCandidates := candidates }
  | .connect msg =>
    match decodeConnectInfo msg.payload with
    | .error _ => { state with handlers := state.handlers.eraseIdx index }
    | .ok _ =>
      { state with
        handlers := state.handlers.set index (.respond msg.srcVIP)
        fromResponder := state.fromResponder ++
          [newCandidateMessage parties.remoteVIP msg.srcVIP parties.candidateInfos] }
  | .respond srcVIP =>
    { state with
      handlers := state.handlers.eraseIdx index
      fromResponder := state.fromResponder ++
        [newConnectAckMessage parties.remoteVIP srcVIP parties.localPub] }

/-- An acknowledgment goes to the channel registered for its sender if that is empty, and candidates
to the callback. -/
def received (msg : Message) : Signaling :=
  { state with
    ackCh :=
      if msg.type = signalConnectAck ∧ state.stage.isPending = true ∧
          ipString msg.srcVIP = ipString parties.remoteVIP then state.ackCh <|> some msg
      else state.ackCh
    callbacks :=
      if msg.type = signalCandidate ∧ state.stage.listens = true then state.callbacks ++ [msg]
      else state.callbacks }

/-- What the callback puts on its channel: candidates of the peer, if the channel is empty. -/
def called (msg : Message) : Option (List CandidateInfo) :=
  if ipEqual msg.srcVIP parties.remoteVIP then
    match decodeCandidates msg.payload with
    | .error _ => state.remoteCh
    | .ok candidates => state.remoteCh <|> some candidates
  else state.remoteCh

def step : Event → Option Signaling
  | .register =>
    match state.stage with
    | .start => some { state with stage := .registered }
    | _ => none
  | .sendCandidates =>
    match state.stage with
    | .registered => some
      { state with
        stage := .awaitingCandidates
        toHub := state.toHub ++
          [newCandidateMessage parties.localVIP parties.remoteVIP parties.localCandidates] }
    | _ => none
  | .takeCandidates =>
    match state.stage, state.remoteCh with
    | .awaitingCandidates, some remote =>
      some { state with stage := .exchanged remote, remoteCh := none }
    | _, _ => none
  | .sendConnect =>
    match state.stage with
    | .exchanged remote => some
      { state with
        stage := .connecting remote
        toHub := state.toHub ++
          [newConnectMessage parties.localVIP parties.remoteVIP parties.localPublicKey] }
    | _ => none
  | .awaitAck =>
    match state.stage with
    | .connecting remote => some { state with stage := .awaitingAck remote, ackCh := none }
    | _ => none
  | .takeAck =>
    match state.stage, state.ackCh with
    | .awaitingAck remote, some ackMsg =>
      some { state with stage := .acknowledged remote ackMsg, ackCh := none }
    | _, _ => none
  | .decodeAck =>
    match state.stage with
    | .acknowledged remote ackMsg =>
      match decodeConnectInfo ackMsg.payload with
      | .error _ => some { state with stage := .failed }
      | .ok connectInfo => some { state with stage := .succeeded remote connectInfo }
    | _ => none
  | .timeout =>
    match state.stage with
    | .awaitingCandidates => some { state with stage := .failed }
    | .awaitingAck _ => some { state with stage := .failed }
    | _ => none
  | .receive =>
    match state.toInitiator with
    | [] => none
    | msg :: rest => some (received parties { state with toInitiator := rest } msg)
  | .callback index =>
    match state.callbacks[index]? with
    | none => none
    | some msg =>
      some { state with
        callbacks := state.callbacks.eraseIdx index
        remoteCh := called parties state msg }
  | .forward =>
    match state.toHub with
    | [] => none
    | msg :: rest => some { state with toHub := rest, toResponder := state.toResponder ++ [msg] }
  | .backward =>
    match state.fromResponder with
    | [] => none
    | msg :: rest =>
      some { state with fromResponder := rest, toInitiator := state.toInitiator ++ [msg] }
  | .accept =>
    match state.toResponder with
    | [] => none
    | msg :: rest =>
      some { state with toResponder := rest, handlers := state.handlers ++ spawned msg }
  | .handle index =>
    match state.handlers[index]? with
    | none => none
    | some handler => some (handleStep parties state index handler)

def machine : Machine Signaling Event := ⟨step parties⟩

/-- The handshake has not returned, and no step but a timeout is possible. -/
def Stuck : Prop :=
  state.stage.running = true ∧
    ∀ event, event ≠ .timeout → (machine parties).step state event = none

def Waits : Prop :=
  state.stage = .awaitingCandidates ∧ state.remoteCh = none ∨
    ∃ remote, state.stage = .awaitingAck remote ∧ state.ackCh = none

def Idle : Prop :=
  state.toHub = [] ∧ state.toResponder = [] ∧ state.handlers = [] ∧ state.fromResponder = [] ∧
    state.toInitiator = [] ∧ state.callbacks = []

variable {state next : Signaling} {event : Event}

theorem waits_of_blocked (running : state.stage.running = true)
    (blocked : ∀ event, event ≠ .timeout → (machine parties).step state event = none) :
    state.Waits := by
  have register := blocked .register nofun
  have sendCandidates := blocked .sendCandidates nofun
  have takeCandidates := blocked .takeCandidates nofun
  have sendConnect := blocked .sendConnect nofun
  have awaitAck := blocked .awaitAck nofun
  have takeAck := blocked .takeAck nofun
  have decodeAck := blocked .decodeAck nofun
  have ⟨stage, remoteCh, ackCh, _, _, _, _, _, _, _⟩ := state
  cases stage with
  | start => cases register
  | registered => cases sendCandidates
  | awaitingCandidates =>
    cases remoteCh with
    | none => exact .inl ⟨rfl, rfl⟩
    | some remote => cases takeCandidates
  | exchanged remote => cases sendConnect
  | connecting remote => cases awaitAck
  | awaitingAck remote =>
    cases ackCh with
    | none => exact .inr ⟨remote, rfl, rfl⟩
    | some ackMsg => cases takeAck
  | acknowledged remote ackMsg =>
    simp only [machine, step] at decodeAck
    split at decodeAck <;> cases decodeAck
  | succeeded remote connectInfo | failed => cases running

theorem idle_of_blocked
    (blocked : ∀ event, event ≠ .timeout → (machine parties).step state event = none) :
    state.Idle := by
  have forward := blocked .forward nofun
  have accept := blocked .accept nofun
  have handle := blocked (.handle 0) nofun
  have backward := blocked .backward nofun
  have receive := blocked .receive nofun
  have callback := blocked (.callback 0) nofun
  have ⟨_, _, _, callbacks, toHub, toResponder, handlers, _, fromResponder, toInitiator⟩ := state
  refine ⟨?_, ?_, ?_, ?_, ?_, ?_⟩
  · cases toHub with
    | nil => rfl
    | cons msg rest => cases forward
  · cases toResponder with
    | nil => rfl
    | cons msg rest => cases accept
  · cases handlers with
    | nil => rfl
    | cons handler rest => cases handle
  · cases fromResponder with
    | nil => rfl
    | cons msg rest => cases backward
  · cases toInitiator with
    | nil => rfl
    | cons msg rest => cases receive
  · cases callbacks with
    | nil => rfl
    | cons msg rest => cases callback

theorem stuck_iff (state : Signaling) : Stuck parties state ↔ state.Waits ∧ state.Idle := by
  constructor
  · rintro ⟨running, blocked⟩
    exact ⟨waits_of_blocked parties running blocked, idle_of_blocked parties blocked⟩
  · have ⟨stage, remoteCh, ackCh, callbacks, toHub, toResponder, handlers, _, fromResponder,
      toInitiator⟩ := state
    rintro ⟨waits, hub, responder, goroutines, answers, initiator, calls⟩
    subst hub responder goroutines answers initiator calls
    rcases waits with ⟨awaits, empty⟩ | ⟨remote, awaits, empty⟩
    all_goals
      subst awaits empty
      exact ⟨rfl, fun event other => by cases event <;> first | rfl | exact absurd rfl other⟩

/-! ## Runs -/

/-- Nobody has answered: the candidates of the initiator are on their way to the responder or being
handled there. -/
structure Unanswered (state : Signaling) : Prop where
  early : state.stage.early = true
  remoteCh : state.remoteCh = none
  callbacks : state.callbacks = []
  fromResponder : state.fromResponder = []
  toInitiator : state.toInitiator = []
  toHub : ∀ msg ∈ state.toHub, msg.type = signalCandidate
  toResponder : ∀ msg ∈ state.toResponder, msg.type = signalCandidate
  handlers : ∀ handler ∈ state.handlers, ∃ msg, handler = .candidates msg
  single : state.toHub.length + state.toResponder.length + state.handlers.length ≤ 1
  unsent : state.stage = .start ∨ state.stage = .registered →
    state.toHub.length + state.toResponder.length + state.handlers.length = 0

theorem initial_unanswered : Unanswered initial where
  early := rfl
  remoteCh := rfl
  callbacks := rfl
  fromResponder := rfl
  toInitiator := rfl
  toHub := nofun
  toResponder := nofun
  handlers := nofun
  single := Nat.zero_le 1
  unsent := fun _ => rfl

theorem handleStep_candidates (state : Signaling) (index : Nat) (msg : Message) :
    ∃ candidates, handleStep parties state index (.candidates msg) =
      { state with handlers := state.handlers.eraseIdx index, peerCandidates := candidates } := by
  rw [handleStep]
  split
  · exact ⟨state.peerCandidates, rfl⟩
  · exact ⟨_, rfl⟩

/-- What a step can be while nobody has answered the initiator. -/
inductive UnansweredStep (state : Signaling) : Event → Signaling → Prop
  | register (here : state.stage = .start) :
      UnansweredStep state .register { state with stage := .registered }
  | sendCandidates {msg : Message} (here : state.stage = .registered)
      (sent : msg.type = signalCandidate) :
      UnansweredStep state .sendCandidates
        { state with stage := .awaitingCandidates, toHub := state.toHub ++ [msg] }
  | timeout : UnansweredStep state .timeout { state with stage := .failed }
  | forward {msg : Message} {rest : List Message} (front : state.toHub = msg :: rest)
      (sent : msg.type = signalCandidate) :
      UnansweredStep state .forward
        { state with toHub := rest, toResponder := state.toResponder ++ [msg] }
  | accept {msg : Message} {rest : List Message} (front : state.toResponder = msg :: rest) :
      UnansweredStep state .accept
        { state with toResponder := rest, handlers := state.handlers ++ [.candidates msg] }
  | handle {index : Nat} {msg : Message} (candidates : List CandidateInfo)
      (found : state.handlers[index]? = some (.candidates msg)) :
      UnansweredStep state (.handle index)
        { state with handlers := state.handlers.eraseIdx index, peerCandidates := candidates }

theorem Unanswered.not_at {stage : Stage} (sound : Unanswered state)
    (late : stage.early = false) : state.stage ≠ stage := by
  intro here
  have early := sound.early
  rw [here, late] at early
  cases early

theorem unansweredStep_of_step (sound : Unanswered state)
    (stepped : (machine parties).step state event = some next) :
    UnansweredStep state event next := by
  cases event with
  | register =>
    simp only [machine, step] at stepped
    split at stepped
    · rename_i here
      cases stepped
      exact .register here
    · cases stepped
  | sendCandidates =>
    simp only [machine, step] at stepped
    split at stepped
    · rename_i here
      cases stepped
      exact .sendCandidates here rfl
    · cases stepped
  | takeCandidates =>
    simp only [machine, step, sound.remoteCh] at stepped
    split at stepped
    · contradiction
    · cases stepped
  | sendConnect | awaitAck | decodeAck =>
    simp only [machine, step] at stepped
    split at stepped
    · rename_i here
      exact absurd here (sound.not_at rfl)
    · cases stepped
  | takeAck =>
    simp only [machine, step] at stepped
    split at stepped
    · rename_i here _
      exact absurd here (sound.not_at rfl)
    · cases stepped
  | timeout =>
    simp only [machine, step] at stepped
    split at stepped
    all_goals cases stepped
    all_goals exact .timeout
  | receive =>
    simp only [machine, step, sound.toInitiator] at stepped
    cases stepped
  | callback index =>
    simp only [machine, step, sound.callbacks] at stepped
    cases stepped
  | backward =>
    simp only [machine, step, sound.fromResponder] at stepped
    cases stepped
  | forward =>
    simp only [machine, step] at stepped
    split at stepped
    · cases stepped
    · rename_i msg rest front
      cases stepped
      exact .forward front (sound.toHub msg (front ▸ mem_cons_self))
  | accept =>
    simp only [machine, step] at stepped
    split at stepped
    · cases stepped
    rename_i msg rest front
    have one : spawned msg = [.candidates msg] :=
      if_pos (sound.toResponder msg (front ▸ mem_cons_self))
    rw [one] at stepped
    cases stepped
    exact .accept front
  | handle index =>
    simp only [machine, step] at stepped
    split at stepped
    · cases stepped
    rename_i handler found
    have ⟨msg, same⟩ := sound.handlers handler (mem_of_getElem? found)
    subst same
    have ⟨candidates, ended⟩ := handleStep_candidates parties state index msg
    rw [ended] at stepped
    cases stepped
    exact .handle candidates found

theorem unanswered_step (sound : Unanswered state)
    (stepped : (machine parties).step state event = some next) : Unanswered next := by
  have single := sound.single
  have unsent := sound.unsent
  cases unansweredStep_of_step parties sound stepped with
  | register here => exact { sound with early := rfl, unsent := fun _ => unsent (.inl here) }
  | sendCandidates here sent =>
    have before := unsent (.inr here)
    have hub : state.toHub = [] := length_eq_zero_iff.mp (by omega)
    refine { sound with early := rfl, toHub := ?_, single := ?_, unsent := nofun }
    · rw [hub]
      exact forall_mem_singleton.mpr sent
    · dsimp only
      rw [hub, nil_append, length_singleton]
      omega
  | timeout => exact { sound with early := rfl, unsent := nofun }
  | @forward msg rest front sent =>
    have others := (forall_mem_cons.mp (front ▸ sound.toHub)).2
    rw [front, length_cons] at single unsent
    refine { sound with toHub := others, toResponder := ?_, single := ?_, unsent := ?_ }
    · exact forall_mem_append.mpr ⟨sound.toResponder, forall_mem_singleton.mpr sent⟩
    · dsimp only
      rw [length_append, length_singleton]
      omega
    · intro before
      have none := unsent before
      omega
  | @accept msg rest front =>
    have others := (forall_mem_cons.mp (front ▸ sound.toResponder)).2
    rw [front, length_cons] at single unsent
    refine { sound with toResponder := others, handlers := ?_, single := ?_, unsent := ?_ }
    · exact forall_mem_append.mpr
        ⟨sound.handlers, forall_mem_singleton.mpr ⟨msg, rfl⟩⟩
    · dsimp only
      rw [length_append, length_singleton]
      omega
    · intro before
      have none := unsent before
      omega
  | @handle index msg candidates found =>
    have fewer := length_eraseIdx_le state.handlers index
    refine { sound with handlers := ?_, single := ?_, unsent := ?_ }
    · exact fun other member => sound.handlers other (mem_of_mem_eraseIdx member)
    · dsimp only
      omega
    · intro before
      have none := unsent before
      dsimp only
      omega

/-- The responder handles the candidates of an initiator that waits for an answer to them. -/
def HandlesCandidates (state : Signaling) (event : Event) : Prop :=
  state.stage = .awaitingCandidates ∧
    ∃ index msg, event = .handle index ∧ state.handlers[index]? = some (.candidates msg)

theorem unanswered_stuck_iff (sound : Unanswered state) :
    Stuck parties state ↔ state.stage = .awaitingCandidates ∧
      state.toHub.length + state.toResponder.length + state.handlers.length = 0 := by
  rw [stuck_iff]
  constructor
  · rintro ⟨waits, hub, responder, handlers, _⟩
    rw [hub, responder, handlers]
    rcases waits with ⟨awaits, _⟩ | ⟨remote, awaits, _⟩
    · exact ⟨awaits, rfl⟩
    · have early := sound.early
      rw [awaits] at early
      cases early
  · rintro ⟨awaits, none⟩
    have hub : state.toHub = [] := length_eq_zero_iff.mp (by omega)
    have responder : state.toResponder = [] := length_eq_zero_iff.mp (by omega)
    have handlers : state.handlers = [] := length_eq_zero_iff.mp (by omega)
    exact ⟨.inl ⟨awaits, sound.remoteCh⟩, hub, responder, handlers, sound.fromResponder,
      sound.toInitiator, sound.callbacks⟩

theorem handles_of_stuck (sound : Unanswered state)
    (stepped : (machine parties).step state event = some next) (stuck : Stuck parties next) :
    HandlesCandidates state event := by
  have ⟨awaits, empty⟩ :=
    (unanswered_stuck_iff parties (unanswered_step parties sound stepped)).mp stuck
  cases unansweredStep_of_step parties sound stepped with
  | register here | timeout => cases awaits
  | sendCandidates here sent | forward front sent | accept front =>
    rw [length_append, length_singleton] at empty
    omega
  | @handle index msg candidates found => exact ⟨awaits, index, msg, rfl, found⟩

theorem stuck_of_handles (sound : Unanswered state)
    (stepped : (machine parties).step state event = some next)
    (handles : HandlesCandidates state event) : Stuck parties next := by
  have ⟨awaits, index, msg, same, found⟩ := handles
  subst same
  have single := sound.single
  have ⟨inside, _⟩ := List.getElem?_eq_some_iff.mp found
  have shorter := length_eraseIdx_of_lt inside
  rw [unanswered_stuck_iff parties (unanswered_step parties sound stepped)]
  cases unansweredStep_of_step parties sound stepped with
  | handle candidates _ =>
    dsimp only
    exact ⟨awaits, by omega⟩

/-- In no state of a run is the handshake stuck exactly when the responder never handles the
candidates of the initiator while that waits for an answer to them. -/
theorem handshake_progress_iff (events : List Event) :
    (machine parties).Always (fun state => ¬Stuck parties state) initial events ↔
      (machine parties).Never HandlesCandidates initial events := by
  have goes : ¬Stuck parties initial := by
    rw [unanswered_stuck_iff parties initial_unanswered]
    exact fun stuck => nomatch stuck.1
  refine Machine.always_iff_never_of Unanswered ?_ ?_ events initial_unanswered goes
  · intro state next event sound _ stepped allowed
    exact ⟨unanswered_step parties sound stepped, fun stuck =>
      allowed (handles_of_stuck parties sound stepped stuck)⟩
  · intro state next event sound _ stepped handles
    exact not_not.mpr (stuck_of_handles parties sound stepped handles)

def sampleParties : Parties where
  localVIP := [10, 7, 0, 2]
  remoteVIP := [10, 7, 0, 3]
  localPublicKey := ⟨List.replicate 32 1, rfl⟩
  localPub := ⟨List.replicate 32 2, rfl⟩
  localCandidates := [⟨0, [192, 168, 1, 10], 40000, 1, [], none, 0⟩]
  candidateInfos := [⟨0, [192, 168, 1, 11], 40000, 1, [], none, 0⟩]

/-- The initiator sends its candidates, they are delivered and handled, and the handshake is
stuck. -/
theorem handled_candidates_stick : ∃ reached,
    (machine sampleParties).run initial
        [.register, .sendCandidates, .forward, .accept, .handle 0] = some reached ∧
      Stuck sampleParties reached := by
  refine ⟨_, rfl, ?_⟩
  rw [stuck_iff]
  exact ⟨.inl ⟨rfl, rfl⟩, rfl, rfl, rfl, rfl, rfl, rfl⟩

end Signaling

end Shuttle.Mesh
