import Shuttle.Lib.Lists
import Shuttle.Mesh.Connecting

/-!
# Key agreement between two peers

Each manager sends its own public key only, so both derive their keys from the same secret in
whatever order the steps of two connecting managers come. Their keys then match exactly when the two
connections installed last are of opposite roles, and nothing makes them so: when both connect at
the same time, both may end as initiators.
-/

namespace Shuttle.P2P

open Shuttle.Lib List Option
open Shuttle.Mesh (CandidateInfo)

/-! ## Whose keys are used -/

def Signal.Carries (key : Key) : Signal → Prop
  | .candidate _ => True
  | .connect publicKey | .connectAck publicKey => publicKey = key

def ConnectStage.Carries (key : Key) : ConnectStage → Prop
  | .acknowledged _ remoteKey | .punching _ remoteKey | .punched remoteKey => remoteKey = key
  | _ => True

structure ConnectCall.Carries (key : Key) (call : ConnectCall) : Prop where
  stage : call.stage.Carries key
  ackCh : ∀ remoteKey, call.ackCh = some remoteKey → remoteKey = key

def Goroutine.Carries (key : Key) : Goroutine → Prop
  | .candidates _ | .callback _ _ => True
  | .connect remoteKey | .respond remoteKey | .responder remoteKey | .punching remoteKey
  | .punched remoteKey => remoteKey = key

/-- A connection installed has keys of the shared secret, and there is one when the state says
connected. -/
structure PeerConnection.Sound (crypto : Crypto) (secret : Option (List UInt8))
    (peer : PeerConnection) : Prop where
  connected : peer.state = .connected → peer.p2pConn.isSome = true
  derived : ∀ conn, peer.p2pConn = some conn → ∃ sharedSecret, secret = some sharedSecret ∧
    conn = crypto.newP2PConn sharedSecret conn.isInitiator

def Party.secret (crypto : Crypto) (party : Party) (remoteKey : Key) : Option (List UInt8) :=
  crypto.x25519 party.localPriv remoteKey

structure Manager.Sound (crypto : Crypto) (party : Party) (remoteKey : Key) (manager : Manager) :
    Prop where
  peer : manager.peer.Sound crypto (party.secret crypto remoteKey)
  calls : ∀ call ∈ manager.calls, call.Carries remoteKey
  goroutines : ∀ goroutine ∈ manager.goroutines, goroutine.Carries remoteKey

section Invariant

variable {crypto : Crypto} {party : Party} {remoteKey : Key} {manager : Manager}
  {peer : PeerConnection} {index : Nat}

theorem PeerConnection.Sound.setState {secret : Option (List UInt8)}
    (sound : peer.Sound crypto secret) {state : ConnectionState} (not : state ≠ .connected) :
    { peer with state := state }.Sound crypto secret :=
  ⟨fun connected => absurd connected not, sound.derived⟩

theorem PeerConnection.Sound.setCandidates {secret : Option (List UInt8)}
    (sound : peer.Sound crypto secret) (candidates : List CandidateInfo) :
    { peer with candidates := candidates }.Sound crypto secret :=
  ⟨sound.connected, sound.derived⟩

theorem offered_key {channel : Option Key} {key : Key}
    (held : ∀ other, channel = some other → other = remoteKey) (same : key = remoteKey) :
    ∀ other, (channel <|> some key) = some other → other = remoteKey := by
  intro other found
  cases channel with
  | none => exact Option.some.inj found ▸ same
  | some value => exact held other found

variable (sound : manager.Sound crypto party remoteKey)

include sound

theorem Manager.Sound.establish {key : Key} (same : key = remoteKey) (isInitiator : Bool) :
    (manager.establish crypto party key isInitiator).Sound crypto
      (party.secret crypto remoteKey) := by
  unfold Manager.establish
  split
  · exact sound.peer.setState (by decide)
  rename_i sharedSecret computed
  refine ⟨fun _ => rfl, fun conn installed => ⟨sharedSecret, same ▸ computed, ?_⟩⟩
  rw [← Option.some.inj installed]
  rfl

theorem Manager.Sound.setCall (index : Nat)
    (call : ConnectCall) (carries : call.Carries remoteKey) :
    { manager with calls := manager.calls.set index call }.Sound crypto party remoteKey where
  peer := sound.peer
  calls := forall_mem_set sound.calls carries index
  goroutines := sound.goroutines

theorem Manager.Sound.goOn (index : Nat)
    (goroutine : Goroutine) (carries : goroutine.Carries remoteKey) :
    (manager.goOn index goroutine).Sound crypto party remoteKey where
  peer := sound.peer
  calls := sound.calls
  goroutines := forall_mem_set sound.goroutines carries index

theorem Manager.Sound.finish (index : Nat) :
    (manager.finish index).Sound crypto party remoteKey where
  peer := sound.peer
  calls := sound.calls
  goroutines := fun other present => sound.goroutines other (mem_of_mem_eraseIdx present)

theorem Manager.Sound.setPeer (peerSound : peer.Sound crypto (party.secret crypto remoteKey)) :
    { manager with peer := peer }.Sound crypto party remoteKey :=
  ⟨peerSound, sound.calls, sound.goroutines⟩

theorem Manager.Sound.setPending (pending : Option Nat) :
    { manager with pending := pending }.Sound crypto party remoteKey :=
  ⟨sound.peer, sound.calls, sound.goroutines⟩

def Advanced (crypto : Crypto) (party : Party) (remoteKey : Key)
    (result : Manager × List Signal) : Prop :=
  result.1.Sound crypto party remoteKey ∧
    ∀ signal ∈ result.2, signal.Carries (crypto.publicKey party.localPriv)

theorem advanced_silent : Advanced crypto party remoteKey (manager, []) :=
  ⟨sound, nofun⟩

theorem advanced_sends (signal : Signal)
    (carries : signal.Carries (crypto.publicKey party.localPriv)) :
    Advanced crypto party remoteKey (manager, [signal]) :=
  ⟨sound, fun _ present => mem_singleton.mp present ▸ carries⟩

variable {result : Manager × List Signal}

theorem proceed_advanced {call : ConnectCall} (carries : call.Carries remoteKey)
    (proceeded : manager.proceed crypto party index call = some result) :
    Advanced crypto party remoteKey result := by
  have stageCarries := carries.stage
  have moved : ∀ stage : ConnectStage, stage.Carries remoteKey →
      (manager.move index call stage).Sound crypto party remoteKey :=
    fun stage holds => sound.setCall index { call with stage := stage } ⟨holds, carries.ackCh⟩
  unfold Manager.proceed at proceeded
  generalize call.stage = stage at proceeded stageCarries
  cases stage with
  | entered =>
    cases proceeded
    exact advanced_silent (moved .registered trivial)
  | registered =>
    cases proceeded
    exact advanced_sends (moved .awaitingCandidates trivial) (.candidate call.candidates) trivial
  | awaitingCandidates =>
    have ⟨remote, _, same⟩ := map_eq_some_iff.mp proceeded
    cases same
    exact advanced_silent (moved (.exchanged remote) trivial)
  | exchanged remote =>
    cases proceeded
    exact advanced_sends (moved (.requested remote) trivial) (.connect _) rfl
  | requested remote =>
    cases proceeded
    exact advanced_silent ((moved (.awaitingAck remote) trivial).setPending (some index))
  | awaitingAck remote =>
    have ⟨key, held, same⟩ := map_eq_some_iff.mp proceeded
    cases same
    exact advanced_silent
      ((moved (.acknowledged remote key) (carries.ackCh key held)).setPending none)
  | acknowledged remote key =>
    cases proceeded
    exact advanced_silent
      ((moved (.punching remote key) stageCarries).setPeer (sound.peer.setCandidates remote))
  | punching remote key =>
    dsimp only at proceeded
    split at proceeded <;> cases proceeded
    exact advanced_silent (moved (.punched key) stageCarries)
  | punched key =>
    cases proceeded
    exact advanced_silent ((moved .returned trivial).setPeer (sound.establish stageCarries true))
  | failing =>
    cases proceeded
    exact advanced_silent ((moved .returned trivial).setPeer (sound.peer.setState (by decide)))
  | returned =>
    cases proceeded

theorem fail_sound {call : ConnectCall} (carries : call.Carries remoteKey) {next : Manager}
    (failed : manager.fail index call = some next) : next.Sound crypto party remoteKey := by
  have moved : (manager.move index call .failing).Sound crypto party remoteKey :=
    sound.setCall index { call with stage := .failing } ⟨trivial, carries.ackCh⟩
  unfold Manager.fail at failed
  split at failed <;> cases failed
  · exact moved
  · exact moved
  · exact moved
  · exact moved
  · exact moved.setPending none

theorem offer_sound (index : Nat) (candidates : List CandidateInfo) :
    (manager.offer index candidates).Sound crypto party remoteKey := by
  unfold Manager.offer
  split
  · exact sound
  · rename_i call found
    have carries := sound.calls call (mem_of_getElem? found)
    exact sound.setCall index _ ⟨carries.stage, carries.ackCh⟩

theorem run_advanced (index : Nat) {goroutine : Goroutine} (carries : goroutine.Carries remoteKey) :
    Advanced crypto party remoteKey (manager.runGoroutine crypto party index goroutine) := by
  cases goroutine with
  | candidates candidates =>
    exact advanced_silent ((sound.finish index).setPeer (sound.peer.setCandidates candidates))
  | callback call candidates => exact advanced_silent (offer_sound (sound.finish index) _ _)
  | connect key =>
    exact advanced_sends (sound.goOn index (.respond key) carries) (.candidate _) trivial
  | respond key =>
    exact advanced_sends (sound.goOn index (.responder key) carries) (.connectAck _) rfl
  | responder key =>
    rw [Manager.runGoroutine]
    split
    · exact advanced_silent (sound.finish index)
    · exact advanced_silent (sound.goOn index (.punching key) carries)
  | punching key => exact advanced_silent (sound.goOn index (.punched key) carries)
  | punched key =>
    exact advanced_silent ((sound.finish index).setPeer (sound.establish carries false))

theorem giveUp_sound
    {goroutine : Goroutine} {next : Manager} (gaveUp : manager.giveUp index goroutine = some next) :
    next.Sound crypto party remoteKey := by
  unfold Manager.giveUp at gaveUp
  split at gaveUp <;> cases gaveUp
  · exact sound.finish index
  · exact sound.finish index
  · exact (sound.finish index).setPeer (sound.peer.setState (by decide))

theorem beginConnect_sound (discovered : List CandidateInfo) :
    (manager.beginConnect party discovered).Sound crypto party remoteKey := by
  unfold Manager.beginConnect
  split
  · exact sound
  have begun : ∀ call ∈ [(⟨.entered, party.candidates ++ discovered, none, none⟩ : ConnectCall)],
      call.Carries remoteKey :=
    forall_mem_singleton.mpr ⟨trivial, nofun⟩
  exact ⟨sound.peer.setState (by decide), forall_mem_append.mpr ⟨sound.calls, begun⟩,
    sound.goroutines⟩

theorem act_advanced {event : LocalEvent} (acted : manager.act crypto party event = some result) :
    Advanced crypto party remoteKey result := by
  cases event with
  | connect discovered =>
    cases acted
    exact advanced_silent (beginConnect_sound sound discovered)
  | proceed index =>
    have ⟨call, found, proceeded⟩ := bind_eq_some_iff.mp acted
    exact proceed_advanced sound (sound.calls call (mem_of_getElem? found)) proceeded
  | fail index =>
    have ⟨call, found, failed⟩ := bind_eq_some_iff.mp acted
    have ⟨next, moved, same⟩ := map_eq_some_iff.mp failed
    cases same
    exact advanced_silent (fail_sound sound (sound.calls call (mem_of_getElem? found)) moved)
  | run index =>
    have ⟨goroutine, found, same⟩ := map_eq_some_iff.mp acted
    cases same
    exact run_advanced sound index (sound.goroutines goroutine (mem_of_getElem? found))
  | giveUp index =>
    have ⟨goroutine, found, gaveUp⟩ := bind_eq_some_iff.mp acted
    have ⟨next, moved, same⟩ := map_eq_some_iff.mp gaveUp
    cases same
    exact advanced_silent (giveUp_sound sound moved)
  | disconnect =>
    cases acted
    exact advanced_silent (sound.setPeer ⟨nofun, nofun⟩)

theorem receive_sound {signal : Signal} (carries : signal.Carries remoteKey) :
    (manager.receive signal).Sound crypto party remoteKey := by
  cases signal with
  | candidate candidates =>
    refine ⟨sound.peer, sound.calls, forall_mem_append.mpr ⟨sound.goroutines, ?_⟩⟩
    refine forall_mem_cons.mpr ⟨trivial, fun goroutine present => ?_⟩
    have ⟨call, _, same⟩ := mem_map.mp present
    exact same ▸ trivial
  | connect key =>
    exact ⟨sound.peer, sound.calls, forall_mem_append.mpr
      ⟨sound.goroutines, forall_mem_singleton.mpr carries⟩⟩
  | connectAck key =>
    rw [Manager.receive]
    cases manager.pending with
    | none => exact sound
    | some index =>
      rw [elim_some, Manager.acknowledge]
      split
      · exact sound
      · rename_i call found
        have before := sound.calls call (mem_of_getElem? found)
        exact sound.setCall index _ ⟨before.stage, offered_key before.ackCh carries⟩

end Invariant

/-! ## Runs of two managers -/

def SendsOwn (crypto : Crypto) (parties : Side → Party) (side : Side) (sent : List Signal) : Prop :=
  ∀ signal ∈ sent, signal.Carries (crypto.publicKey (parties side).localPriv)

def UsesPeer (crypto : Crypto) (parties : Side → Party) (side : Side) (manager : Manager) : Prop :=
  manager.Sound crypto (parties side) (crypto.publicKey (parties side.other).localPriv)

structure Pair.Sound (crypto : Crypto) (parties : Side → Party) (pair : Pair) : Prop where
  managers : ∀ side, UsesPeer crypto parties side (pair.managers side)
  sent : ∀ side, SendsOwn crypto parties side (pair.sent side)

variable {crypto : Crypto} {parties : Side → Party}

theorem initial_sound : Pair.initial.Sound crypto parties where
  managers := fun _ => ⟨⟨nofun, nofun⟩, nofun, nofun⟩
  sent := fun _ => nofun

theorem step_sound {pair next : Pair} (sound : pair.Sound crypto parties) {event : PairEvent}
    (stepped : pair.step crypto parties event = some next) : next.Sound crypto parties := by
  cases event with
  | act side event =>
    have ⟨result, acted, same⟩ := map_eq_some_iff.mp stepped
    cases same
    have ⟨kept, sends⟩ := act_advanced (sound.managers side) acted
    exact ⟨forall_update _ sound.managers kept,
      forall_update _ sound.sent (forall_mem_append.mpr ⟨sound.sent side, sends⟩)⟩
  | receive side =>
    rw [Pair.step] at stepped
    split at stepped
    · cases stepped
    rename_i signal rest queue
    cases stepped
    have carried := sound.sent side.other
    rw [queue] at carried
    refine ⟨forall_update _ sound.managers (receive_sound (sound.managers side) ?_),
      forall_update _ sound.sent fun other present => ?_⟩
    · exact carried signal mem_cons_self
    · exact carried other (mem_cons_of_mem _ present)

/-- Each side sends with the key the other receives with. -/
def KeysMatch (first second : P2PConn) : Prop :=
  first.sendKey = second.recvKey ∧ second.sendKey = first.recvKey

instance (first second : P2PConn) : Decidable (KeysMatch first second) :=
  inferInstanceAs (Decidable (_ ∧ _))

/-- In every interleaving, when both report the other peer connected, both have a connection with
keys of the secret they share, and these match crosswise exactly when the connections installed last
are of opposite roles (or the derivation gives both directions one key). -/
theorem keys_match_iff_opposite_roles (crypto : Crypto) (parties : Side → Party)
    (events : List PairEvent) (pair : Pair)
    (ran : (Pair.machine crypto parties).run Pair.initial events = some pair)
    (connected : ∀ side, (pair.peer side).state = .connected) :
    ∃ sharedSecret first second,
      (parties .a).secret crypto (crypto.publicKey (parties .b).localPriv) = some sharedSecret ∧
      (pair.peer .a).p2pConn = some first ∧ (pair.peer .b).p2pConn = some second ∧
      (KeysMatch first second ↔ first.isInitiator ≠ second.isInitiator ∨
        crypto.i2rKey sharedSecret = crypto.r2iKey sharedSecret) := by
  have sound := Machine.run_invariant (fun pair => Pair.Sound crypto parties pair)
    (fun holds stepped => step_sound holds stepped) events initial_sound ran
  have ⟨first, hasFirst⟩ :=
    isSome_iff_exists.mp ((sound.managers .a).peer.connected (connected .a))
  have ⟨second, hasSecond⟩ :=
    isSome_iff_exists.mp ((sound.managers .b).peer.connected (connected .b))
  have ⟨secret, computed, derived⟩ := (sound.managers .a).peer.derived first hasFirst
  have ⟨other, computedOther, derivedOther⟩ := (sound.managers .b).peer.derived second hasSecond
  have agree : (parties .a).secret crypto (crypto.publicKey (parties .b).localPriv) =
      (parties .b).secret crypto (crypto.publicKey (parties .a).localPriv) := crypto.agrees _ _
  have same : secret = other := by
    have chain := computed.symm.trans (agree.trans computedOther)
    exact Option.some.inj chain
  subst same
  refine ⟨secret, first, second, computed, hasFirst, hasSecond, ?_⟩
  rw [derived, derivedOther]
  cases first.isInitiator <;> cases second.isInitiator <;>
    simp [KeysMatch, Crypto.newP2PConn, Crypto.deriveP2PKeys, eq_comm]

def sampleCrypto : Crypto where
  publicKey := id
  x25519 := fun mine theirs => some (List.zipWith (· + ·) mine.1 theirs.1)
  agrees := fun _ _ =>
    congrArg some (List.zipWith_comm_of_comm fun left right => UInt8.add_comm left right)
  hkdf := fun _ _ info => ⟨List.replicate 32 (info.headD 0), List.length_replicate⟩

variable (side : Side)

def sampleParties : Party where
  localPriv := ⟨List.replicate 32 (if side = .a then 1 else 2), List.length_replicate⟩
  candidates := [⟨1, [192, 168, 1, if side = .a then 1 else 2], 4000, 100, [], none, 0⟩]

/-- A call of `Connect` up to the candidates it awaits. -/
def begins : List PairEvent :=
  [.act side (.connect []), .act side (.proceed 0), .act side (.proceed 0)]

def exchanges : List PairEvent :=
  [.receive side, .act side (.run 0), .act side (.run 0)]

/-- The call of `Connect` sends its request and awaits the acknowledgment. -/
def requests : List PairEvent :=
  [.act side (.proceed 0), .act side (.proceed 0), .act side (.proceed 0)]

def answers : List PairEvent :=
  [.receive side, .act side (.run 0), .act side (.run 0)]

def punchesBack : List PairEvent := [.act side (.run 0)]

def responds : List PairEvent := [.act side (.run 0), .act side (.run 0)]

/-- The answer of the peer arrives, and a hole is punched as initiator. -/
def punches : List PairEvent :=
  [.receive side, .receive side, .act side (.proceed 0), .act side (.proceed 0)]

def initiates : List PairEvent := [.act side (.proceed 0), .act side (.proceed 0)]

def simultaneous : List PairEvent :=
  [begins, exchanges, requests, answers, punchesBack, responds, punches].flatMap fun phase =>
    phase .a ++ phase .b

def observed (pair : Pair) :
    (ConnectionState × Option P2PConn) × (ConnectionState × Option P2PConn) :=
  (((pair.peer .a).state, (pair.peer .a).p2pConn), ((pair.peer .b).state, (pair.peer .b).p2pConn))

theorem observed_connected {pair : Pair} {first second : Option P2PConn}
    (same : observed pair = ((.connected, first), (.connected, second))) :
    (∀ side, (pair.peer side).state = .connected) ∧
      (pair.peer .a).p2pConn = first ∧ (pair.peer .b).p2pConn = second := by
  simp only [observed, Prod.mk.injEq] at same
  refine ⟨fun side => ?_, same.1.2, same.2.2⟩
  cases side with
  | a => exact same.1.1
  | b => exact same.2.1

def sampleSecret : List UInt8 := List.replicate 32 3

/-- When one of the two calls of `Connect` has finished, the keys match. -/
theorem one_initiator_matches :
    ∃ pair first second, (Pair.machine sampleCrypto sampleParties).run Pair.initial
        (simultaneous ++ initiates .a) = some pair ∧
      (pair.peer .a).p2pConn = some first ∧ (pair.peer .b).p2pConn = some second ∧
      KeysMatch first second := by
  have seen : ((Pair.machine sampleCrypto sampleParties).run Pair.initial
      (simultaneous ++ initiates .a)).map observed =
        some ((.connected, some (sampleCrypto.newP2PConn sampleSecret true)),
          (.connected, some (sampleCrypto.newP2PConn sampleSecret false))) := by
    decide +kernel
  have ⟨pair, ran, same⟩ := map_eq_some_iff.mp seen
  have ⟨connected, connA, connB⟩ := observed_connected same
  have ⟨_, first, second, _, hasFirst, hasSecond, matching⟩ :=
    keys_match_iff_opposite_roles sampleCrypto sampleParties _ pair ran connected
  have opposite : first.isInitiator ≠ second.isInitiator := by
    rw [Option.some.inj (hasFirst.symm.trans connA), Option.some.inj (hasSecond.symm.trans connB)]
    decide
  exact ⟨pair, first, second, ran, hasFirst, hasSecond, matching.mpr (.inl opposite)⟩

/-- When both calls of `Connect` have finished, both report the other connected, and the keys do not
match. -/
theorem simultaneous_mismatch :
    ∃ pair first second, (Pair.machine sampleCrypto sampleParties).run Pair.initial
        (simultaneous ++ initiates .a ++ initiates .b) = some pair ∧
      (∀ side, (pair.peer side).state = .connected) ∧
      (pair.peer .a).p2pConn = some first ∧ (pair.peer .b).p2pConn = some second ∧
      ¬KeysMatch first second := by
  have seen : ((Pair.machine sampleCrypto sampleParties).run Pair.initial
      (simultaneous ++ initiates .a ++ initiates .b)).map observed =
        some ((.connected, some (sampleCrypto.newP2PConn sampleSecret true)),
          (.connected, some (sampleCrypto.newP2PConn sampleSecret true))) := by
    decide +kernel
  have ⟨pair, ran, same⟩ := map_eq_some_iff.mp seen
  have ⟨connected, connA, connB⟩ := observed_connected same
  exact ⟨pair, _, _, ran, connected, connA, connB, by decide +kernel⟩

end Shuttle.P2P
