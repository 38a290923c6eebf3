import Shuttle.Lib.Machine
import Shuttle.Lib.Parser
import Shuttle.Mesh.Signal

/-!
# Two peers connecting

Each of two managers may call `Connect`, which exchanges candidates, sends a request, awaits the
acknowledgment and installs a connection as initiator; each answers requests of the other and
installs one as responder. A later installation replaces an earlier one. Steps are those of locks,
channels and goroutines; messages arrive in order and carry what their payload decodes to.
-/

namespace Shuttle.P2P

open Shuttle.Go Shuttle.Lib
open Shuttle.Mesh (CandidateInfo)

/-! ## Keys -/

abbrev Key := Bytes 32

structure Crypto where
  publicKey : Key → Key
  /-- Shared secret of a private and a public key; none for an error. -/
  x25519 : Key → Key → Option (List UInt8)
  agrees : ∀ mine theirs, x25519 mine (publicKey theirs) = x25519 theirs (publicKey mine)
  /-- Key derived from a secret, a salt and an info text. -/
  hkdf : List UInt8 → List UInt8 → List UInt8 → Key

/-- An encrypted connection: its keys, and the role they were derived for. -/
structure P2PConn where
  sendKey : Key
  recvKey : Key
  isInitiator : Bool
deriving DecidableEq

namespace Crypto

variable (crypto : Crypto)

variable (sharedSecret : List UInt8)

def i2rKey : Key :=
  crypto.hkdf sharedSecret (lit "shuttle-p2p-v1") (lit "i2r")

def r2iKey : Key :=
  crypto.hkdf sharedSecret (lit "shuttle-p2p-v1") (lit "r2i")

def deriveP2PKeys (isInitiator : Bool) : Key × Key :=
  if isInitiator then (crypto.i2rKey sharedSecret, crypto.r2iKey sharedSecret)
  else (crypto.r2iKey sharedSecret, crypto.i2rKey sharedSecret)

def newP2PConn (isInitiator : Bool) : P2PConn :=
  let (sendKey, recvKey) := crypto.deriveP2PKeys sharedSecret isInitiator
  ⟨sendKey, recvKey, isInitiator⟩

end Crypto

/-! ## One manager -/

inductive ConnectionState where
  | disconnected
  | connecting
  | connected
  | failed
deriving DecidableEq

structure PeerConnection where
  state : ConnectionState
  p2pConn : Option P2PConn
  candidates : List CandidateInfo

inductive Signal where
  | candidate (candidates : List CandidateInfo)
  | connect (publicKey : Key)
  | connectAck (publicKey : Key)

inductive ConnectStage where
  | entered
  | registered
  | awaitingCandidates
  /-- The candidates of the peer have come, and the callback is removed. -/
  | exchanged (remote : List CandidateInfo)
  | requested (remote : List CandidateInfo)
  | awaitingAck (remote : List CandidateInfo)
  | acknowledged (remote : List CandidateInfo) (remoteKey : Key)
  | punching (remote : List CandidateInfo) (remoteKey : Key)
  | punched (remoteKey : Key)
  | failing
  | returned

def ConnectStage.listens : ConnectStage → Bool
  | .registered | .awaitingCandidates => true
  | _ => false

structure ConnectCall where
  stage : ConnectStage
  candidates : List CandidateInfo
  remoteCh : Option (List CandidateInfo)
  ackCh : Option Key

inductive Goroutine where
  | candidates (candidates : List CandidateInfo)
  | callback (call : Nat) (candidates : List CandidateInfo)
  | connect (remoteKey : Key)
  /-- It has sent the candidates. -/
  | respond (remoteKey : Key)
  /-- It has sent the acknowledgment. -/
  | responder (remoteKey : Key)
  | punching (remoteKey : Key)
  | punched (remoteKey : Key)

structure Manager where
  peer : PeerConnection
  calls : List ConnectCall
  /-- The call whose channel is registered for the acknowledgment. -/
  pending : Option Nat
  goroutines : List Goroutine

structure Party where
  localPriv : Key
  candidates : List CandidateInfo

inductive LocalEvent where
  /-- `Connect` is called; these hosts were discovered in the local network. -/
  | connect (discovered : List CandidateInfo)
  | proceed (call : Nat)
  | fail (call : Nat)
  | run (goroutine : Nat)
  | giveUp (goroutine : Nat)
  | disconnect

def newManager : Manager := ⟨⟨.disconnected, none, []⟩, [], none, []⟩

def PeerConnection.markFailed (peer : PeerConnection) : PeerConnection :=
  { peer with state := .failed }

namespace Manager

variable (crypto : Crypto) (party : Party) (manager : Manager)

def establish (remoteKey : Key) (isInitiator : Bool) : PeerConnection :=
  match crypto.x25519 party.localPriv remoteKey with
  | none => manager.peer.markFailed
  | some sharedSecret =>
    { manager.peer with
      p2pConn := some (crypto.newP2PConn sharedSecret isInitiator)
      state := .connected }

/-- A call of `Connect` begins unless a connection exists or is under way. -/
def beginConnect (discovered : List CandidateInfo) : Manager :=
  if manager.peer.state = .connected ∨ manager.peer.state = .connecting then manager
  else
    { manager with
      peer := { manager.peer with state := .connecting }
      calls := manager.calls ++ [⟨.entered, party.candidates ++ discovered, none, none⟩] }

variable (index : Nat)

variable (call : ConnectCall)

def move (stage : ConnectStage) : Manager :=
  { manager with calls := manager.calls.set index { call with stage := stage } }

def proceed : Option (Manager × List Signal) :=
  match call.stage with
  | .entered => some (manager.move index call .registered, [])
  | .registered =>
    some (manager.move index call .awaitingCandidates, [.candidate call.candidates])
  | .awaitingCandidates =>
    call.remoteCh.map fun remote => (manager.move index call (.exchanged remote), [])
  | .exchanged remote =>
    some (manager.move index call (.requested remote),
      [.connect (crypto.publicKey party.localPriv)])
  | .requested remote =>
    some ({ manager.move index call (.awaitingAck remote) with pending := some index }, [])
  | .awaitingAck remote =>
    call.ackCh.map fun key =>
      ({ manager.move index call (.acknowledged remote key) with pending := none }, [])
  | .acknowledged remote key =>
    some ({ manager.move index call (.punching remote key) with
      peer := { manager.peer with candidates := remote } }, [])
  | .punching remote key =>
    if remote = [] then none else some (manager.move index call (.punched key), [])
  | .punched key =>
    some ({ manager.move index call .returned with
      peer := manager.establish crypto party key true }, [])
  | .failing =>
    some ({ manager.move index call .returned with peer := manager.peer.markFailed }, [])
  | .returned => none

def fail : Option Manager :=
  match call.stage with
  | .registered | .awaitingCandidates | .exchanged _ | .punching _ _ =>
    some (manager.move index call .failing)
  | .awaitingAck _ => some { manager.move index call .failing with pending := none }
  | _ => none

def finish : Manager :=
  { manager with goroutines := manager.goroutines.eraseIdx index }

def goOn (goroutine : Goroutine) : Manager :=
  { manager with goroutines := manager.goroutines.set index goroutine }

/-- Candidates go to the channel of a call unless it holds some. -/
def offer (candidates : List CandidateInfo) : Manager :=
  match manager.calls[index]? with
  | none => manager
  | some call =>
    { manager with
      calls := manager.calls.set index
        { call with remoteCh := call.remoteCh <|> some candidates } }

def runGoroutine : Goroutine → Manager × List Signal
  | .candidates candidates =>
    ({ manager.finish index with peer := { manager.peer with candidates := candidates } }, [])
  | .callback call candidates => ((manager.finish index).offer call candidates, [])
  | .connect key => (manager.goOn index (.respond key), [.candidate party.candidates])
  | .respond key =>
    (manager.goOn index (.responder key), [.connectAck (crypto.publicKey party.localPriv)])
  | .responder key =>
    if manager.peer.candidates = [] then (manager.finish index, [])
    else (manager.goOn index (.punching key), [])
  | .punching key => (manager.goOn index (.punched key), [])
  | .punched key =>
    ({ manager.finish index with peer := manager.establish crypto party key false }, [])

def giveUp : Goroutine → Option Manager
  | .connect _ | .respond _ => some (manager.finish index)
  | .punching _ => some { manager.finish index with peer := manager.peer.markFailed }
  | _ => none

def act : LocalEvent → Option (Manager × List Signal)
  | .connect discovered => some (manager.beginConnect party discovered, [])
  | .proceed index => manager.calls[index]?.bind (manager.proceed crypto party index)
  | .fail index => manager.calls[index]?.bind fun call => (manager.fail index call).map (·, [])
  | .run index => manager.goroutines[index]?.map (manager.runGoroutine crypto party index)
  | .giveUp index =>
    manager.goroutines[index]?.bind fun goroutine => (manager.giveUp index goroutine).map (·, [])
  | .disconnect =>
    some ({ manager with
      peer := { manager.peer with state := .disconnected, p2pConn := none } }, [])

def listeners : List Nat :=
  (List.range manager.calls.length).filter fun index =>
    manager.calls[index]?.any fun call => call.stage.listens

/-- An acknowledgment goes to the channel registered unless that holds one. -/
def acknowledge (key : Key) (index : Nat) : Manager :=
  match manager.calls[index]? with
  | none => manager
  | some call =>
    { manager with
      calls := manager.calls.set index { call with ackCh := call.ackCh <|> some key } }

def receive : Signal → Manager
  | .candidate candidates =>
    { manager with
      goroutines := manager.goroutines ++
        .candidates candidates :: manager.listeners.map fun call => .callback call candidates }
  | .connect key => { manager with goroutines := manager.goroutines ++ [.connect key] }
  | .connectAck key => manager.pending.elim manager (manager.acknowledge key)

end Manager

/-! ## Two managers -/

inductive Side where
  | a
  | b
deriving DecidableEq

def Side.other : Side → Side
  | .a => .b
  | .b => .a

structure Pair where
  managers : Side → Manager
  /-- Messages that each has sent and its peer has not read. -/
  sent : Side → List Signal

inductive PairEvent where
  | act (side : Side) (event : LocalEvent)
  | receive (side : Side)

namespace Pair

def initial : Pair := ⟨fun _ => newManager, fun _ => []⟩

def step (crypto : Crypto) (parties : Side → Party) (pair : Pair) : PairEvent → Option Pair
  | .act side event =>
    ((pair.managers side).act crypto (parties side) event).map fun (manager, signals) =>
      ⟨Function.update pair.managers side manager,
        Function.update pair.sent side (pair.sent side ++ signals)⟩
  | .receive side =>
    match pair.sent side.other with
    | [] => none
    | signal :: rest =>
      some ⟨Function.update pair.managers side ((pair.managers side).receive signal),
        Function.update pair.sent side.other rest⟩

def machine (crypto : Crypto) (parties : Side → Party) : Machine Pair PairEvent :=
  ⟨step crypto parties⟩

def peer (pair : Pair) (side : Side) : PeerConnection := (pair.managers side).peer

end Pair

end Shuttle.P2P
