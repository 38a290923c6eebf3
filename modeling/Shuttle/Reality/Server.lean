import Shuttle.Reality.PQStream

/-!
# The Reality server

`handleConn` of `transport/reality/server.go` reads one frame for the Noise handshake and, when it
is not accepted, copies the rest of the connection to a target. With post-quantum mode on, three
bytes of an accepted connection tell a yamux header from a frame with a public key. A connection is
the list of the pieces that reads return, before the deadline of the handshake and after.
-/

namespace Shuttle.Reality

open Shuttle.Go Shuttle.Lib List

/-! ## Frames -/

/-- The bytes of a frame; its length is taken modulo `2 ^ 16`. -/
def writeFrame (data : List UInt8) : List UInt8 := beBytes 2 (data.length % 2 ^ 16) ++ data

/-- Read this many bytes: none when the pieces run out, and the pieces left either way. -/
def readFull (count : Nat) (pieces : List (List UInt8)) : Option (List UInt8) × List (List UInt8) :=
  match Frames.readPieces count [] pieces with
  | .error _ => (none, [])
  | .ok (bytes, rest) => (some bytes, rest)

/-- Read one frame: none on an error, and the pieces left either way. -/
def readFrame (pieces : List (List UInt8)) : Option (List UInt8) × List (List UInt8) :=
  match readFull 2 pieces with
  | (none, rest) => (none, rest)
  | (some header, rest) =>
    if 64 * 1024 < ofBe header then (none, rest) else readFull (ofBe header) rest

/-- How many bytes in front of a stream reading a frame consumes. -/
def frameExtent (bytes : List UInt8) : Nat :=
  if bytes.length < 2 then bytes.length else min bytes.length (2 + ofBe (bytes.take 2))

theorem readFull_left (count : Nat) (pieces : List (List UInt8)) :
    (readFull count pieces).2.flatten = pieces.flatten.drop count ∧
      ∀ bytes, (readFull count pieces).1 = some bytes → bytes = pieces.flatten.take count := by
  have flat := Frames.readPieces_flatten pieces count []
  rw [length_nil, Nat.zero_add, nil_append] at flat
  unfold Frames.readFull at flat
  unfold readFull
  cases read : Frames.readPieces count [] pieces with
  | error cause =>
    rw [read] at flat
    split at flat
    · cases flat
    · exact ⟨(drop_eq_nil_of_le (by omega)).symm, nofun⟩
  | ok pair =>
    rw [read] at flat
    split at flat
    · have same := Prod.mk.inj (Except.ok.inj flat)
      exact ⟨same.2.symm, fun bytes found => (Option.some.inj found).symm.trans same.1.symm⟩
    · split at flat <;> cases flat

variable {pieces : List (List UInt8)}

theorem readFull_none {count : Nat}
    (failed : (readFull count pieces).1 = none) : pieces.flatten.length < count := by
  have flat := Frames.readPieces_flatten pieces count []
  rw [length_nil, nil_append, Frames.readFull] at flat
  unfold readFull at failed
  cases read : Frames.readPieces count [] pieces with
  | error cause =>
    rw [read] at flat
    split at flat
    · cases flat
    · omega
  | ok pair =>
    rw [read] at failed
    cases failed

theorem readFrame_left (pieces : List (List UInt8)) :
    (readFrame pieces).2.flatten = pieces.flatten.drop (frameExtent pieces.flatten) := by
  have ⟨left, front⟩ := readFull_left 2 pieces
  unfold readFrame frameExtent
  cases header : (readFull 2 pieces).1 with
  | none =>
    have short := readFull_none header
    have shape : readFull 2 pieces = (none, (readFull 2 pieces).2) := Prod.ext header rfl
    rw [shape, if_pos short]
    rw [left, drop_eq_nil_of_le (by omega), drop_length]
  | some bytes =>
    have shape : readFull 2 pieces = (some bytes, (readFull 2 pieces).2) := Prod.ext header rfl
    have number : ofBe bytes < 2 ^ 16 := by
      have bound := ofBe_lt bytes
      rw [front bytes header] at bound ⊢
      have short : (pieces.flatten.take 2).length ≤ 2 := length_take_le 2 _
      exact Nat.lt_of_lt_of_le bound (Nat.pow_le_pow_right (by decide) short)
    rw [shape]
    dsimp only
    rw [if_neg (by omega), (readFull_left _ _).1, left, drop_drop, front bytes header]
    split
    · rw [drop_eq_nil_of_le (by omega), drop_length]
    · by_cases inside : 2 + ofBe (pieces.flatten.take 2) ≤ pieces.flatten.length
      · rw [Nat.min_eq_right inside]
      · rw [Nat.min_eq_left (by omega), drop_length, drop_eq_nil_of_le (by omega)]

theorem frameExtent_eq_zero {bytes : List UInt8} : frameExtent bytes = 0 ↔ bytes = [] := by
  unfold frameExtent
  rw [← length_eq_zero_iff]
  split
  · rfl
  · omega

/-! ## The handshake -/

structure Responder where
  State : Type
  readMessage : List UInt8 → Option State
  writeMessage : State → Option (List UInt8 × State)
  completed : State → Bool

structure Server where
  newResponder : Option Responder
  targetAddr : GoString
  targetUp : Bool

/-- Pieces before the deadline of the handshake, and after it; a client that closes before sends
nothing after. -/
structure Client where
  early : List (List UInt8)
  late : List (List UInt8)

def Client.bytes (client : Client) : List UInt8 := client.early.flatten ++ client.late.flatten

inductive Outcome where
  | closed
  | forwarded (delivered : List UInt8)
  /-- The handshake is accepted with this answer, and these pieces are left. -/
  | accepted (msg2 : List UInt8) (rest : List (List UInt8))

def Server.forwardToTarget (server : Server) (rest : List (List UInt8)) : Outcome :=
  if server.targetAddr = [] then .closed
  else if server.targetUp = false then .closed
  else .forwarded rest.flatten

/-- The handshake with a client; `answered` says whether the answer can be written. -/
def Server.handleConn (server : Server) (answered : Bool) (client : Client) : Outcome :=
  match server.newResponder with
  | none => .closed
  | some hs =>
    match readFrame client.early with
    | (none, rest) => server.forwardToTarget (rest ++ client.late)
    | (some msg1, rest) =>
      match hs.readMessage msg1 with
      | none => server.forwardToTarget (rest ++ client.late)
      | some state =>
        match hs.writeMessage state with
        | none => server.forwardToTarget (rest ++ client.late)
        | some (msg2, state) =>
          if answered = false then .closed
          else if hs.completed state = false then server.forwardToTarget (rest ++ client.late)
          else .accepted msg2 (rest ++ client.late)

theorem forwardToTarget_forwarded {server : Server} {rest : List (List UInt8)}
    {delivered : List UInt8} (forwarded : server.forwardToTarget rest = .forwarded delivered) :
    delivered = rest.flatten := by
  unfold Server.forwardToTarget at forwarded
  split at forwarded
  · cases forwarded
  · split at forwarded
    · cases forwarded
    · exact (Outcome.forwarded.inj forwarded).symm

theorem handleConn_forwarded {server : Server} {answered : Bool} {client : Client}
    {delivered : List UInt8}
    (forwarded : server.handleConn answered client = .forwarded delivered) :
    delivered = ((readFrame client.early).2 ++ client.late).flatten := by
  unfold Server.handleConn at forwarded
  split at forwarded
  · cases forwarded
  cases frame : readFrame client.early with
  | mk msg1 rest =>
    rw [frame] at forwarded
    cases msg1 with
    | none => exact forwardToTarget_forwarded forwarded
    | some msg1 =>
      dsimp only at forwarded
      split at forwarded
      · exact forwardToTarget_forwarded forwarded
      split at forwarded
      · exact forwardToTarget_forwarded forwarded
      split at forwarded
      · cases forwarded
      · split at forwarded
        · exact forwardToTarget_forwarded forwarded
        · cases forwarded

/-- The target gets the bytes of a client that is not accepted without those that reading the frame
of the handshake has consumed, and therefore all of them if and only if no byte came before the
handshake was given up. -/
theorem fallback_transparent_iff (server : Server) (answered : Bool) (client : Client)
    (delivered : List UInt8)
    (forwarded : server.handleConn answered client = .forwarded delivered) :
    delivered = client.bytes.drop (frameExtent client.early.flatten) ∧
      (delivered = client.bytes ↔ client.early.flatten = []) := by
  have inside : frameExtent client.early.flatten ≤ client.early.flatten.length := by
    unfold frameExtent
    split
    · exact Nat.le_refl _
    · exact Nat.min_le_left _ _
  have rest : delivered = client.bytes.drop (frameExtent client.early.flatten) := by
    rw [handleConn_forwarded forwarded, flatten_append, readFrame_left, Client.bytes,
      drop_append_of_le_length inside]
  refine ⟨rest, ?_⟩
  rw [rest, ← frameExtent_eq_zero]
  constructor
  · intro whole
    have lengths := congrArg length whole
    rw [length_drop] at lengths
    have bound : client.early.flatten.length ≤ client.bytes.length := by
      rw [Client.bytes, length_append]
      exact Nat.le_add_right _ _
    omega
  · intro none
    rw [none, drop_zero]

def strictServer : Server :=
  ⟨some ⟨Unit, fun _ => none, fun _ => none, fun _ => false⟩, lit "www.example.com:443", true⟩

/-- A client that is silent until the deadline gets through to the target. -/
theorem silent_client_forwarded :
    strictServer.handleConn true ⟨[], [lit "GET /"]⟩ = .forwarded (lit "GET /") ∧
      lit "GET /" = (⟨[], [lit "GET /"]⟩ : Client).bytes := by
  have forwarded : strictServer.handleConn true ⟨[], [lit "GET /"]⟩ =
    .forwarded (lit "GET /") := rfl
  exact ⟨forwarded, (fallback_transparent_iff strictServer true ⟨[], [lit "GET /"]⟩ (lit "GET /")
    forwarded).2.mpr rfl⟩

/-- The bytes of a client that sends a request at once do not reach the target. -/
theorem request_not_delivered :
    strictServer.handleConn true ⟨[lit "GET / HTTP/1.1"], []⟩ = .forwarded [] := by
  rfl

/-! ## Detection of the post-quantum phase -/

def handshakeVersionHybridPQ : UInt8 := 0x02

structure KEM where
  encapsulate : List UInt8 → Option (List UInt8 × List UInt8)
  decapsulate : List UInt8 → List UInt8 → Option (List UInt8)

structure KeyPair (kem : KEM) where
  publicKey : List UInt8
  privateKey : List UInt8
  secret : List UInt8
  ciphertext : List UInt8
  secret_ne_nil : secret ≠ []
  encapsulates : kem.encapsulate publicKey = some (secret, ciphertext)
  decapsulates : kem.decapsulate privateKey ciphertext = some secret
  publicKey_fits : publicKey.length + 1 < 2 ^ 16
  ciphertext_fits : ciphertext.length < 2 ^ 16

inductive DetectError where
  /-- "pq peek read". -/
  | peekRead
  /-- "unexpected prefix %x". -/
  | unexpectedFront (peek : List UInt8)
  /-- "pq frame length out of range: %d". -/
  | lengthOutOfRange (payloadLen : Nat)
  /-- "pq payload read". -/
  | payloadRead
  /-- "pq encapsulate". -/
  | encapsulate
  /-- "pq ciphertext send". -/
  | ciphertextSend
  /-- "pq wrap". -/
  | wrap (cause : WrapError)

inductive Detected where
  /-- A classical client: bytes to be replayed, and the connection behind them. -/
  | classical (replay : List UInt8) (conn : List (List UInt8))
  /-- A post-quantum client: what was answered, and the wrapped connection. -/
  | postQuantum (answer : List UInt8) (conn : PQReader)

variable (primitives : Primitives)

variable (primitives : Primitives) (kem : KEM) (answered : Bool)

/-- Complete the exchange behind the three bytes that were read; `answered` says whether the answer
can be written. -/
def finishPQExchange (peek : List UInt8)
    (conn : List (List UInt8)) : Except DetectError Detected :=
  let payloadLen := ofBe (peek.take 2)
  if payloadLen < 1 ∨ 64 * 1024 < payloadLen then .error (.lengthOutOfRange payloadLen)
  else
    match readFull (payloadLen - 1) conn with
    | (none, _) => .error .payloadRead
    | (some pqPubBytes, rest) =>
      match kem.encapsulate pqPubBytes with
      | none => .error .encapsulate
      | some (pqSecret, ciphertext) =>
        if answered = false then .error .ciphertextSend
        else
          match wrapConnWithPQ primitives pqSecret with
          | .error cause => .error (.wrap cause)
          | .ok wrapped =>
            .ok (.postQuantum (writeFrame ciphertext) ⟨wrapped.key, wrapped.writeNonce, rest⟩)

/-- Tell a classical client from a post-quantum one by three bytes. -/
def detectAndHandlePQ
    (conn : List (List UInt8)) : Except DetectError Detected :=
  match readFull 3 conn with
  | (none, _) => .error .peekRead
  | (some peek, rest) =>
    if peek.getD 0 0 = 0x00 then .ok (.classical peek rest)
    else if peek.getD 2 0 = handshakeVersionHybridPQ then
      finishPQExchange primitives kem answered peek rest
    else .error (.unexpectedFront peek)

def nextPiece : List (List UInt8) → Except Frames.FrameError (List UInt8 × List (List UInt8))
  | [] => .error .eof
  | piece :: pieces => .ok (piece, pieces)

/-- Reads of a connection with bytes to be replayed first. -/
def peekRead : Source (List UInt8 × List (List UInt8)) UInt8 Frames.FrameError :=
  Source.buffered nextPiece

def pqHello (publicKey : List UInt8) : List UInt8 :=
  writeFrame (handshakeVersionHybridPQ :: publicKey)

/-- The connection that a post-quantum client writes to once it has the answer. -/
def pqClient (privateKey : List UInt8) (answer : List (List UInt8)) : Option PQConn :=
  match readFrame answer with
  | (none, _) => none
  | (some ciphertext, _) =>
    match kem.decapsulate privateKey ciphertext with
    | none => none
    | some pqSecret => (wrapConnWithPQ primitives pqSecret).toOption

theorem nextPiece_yields (pieces : List (List UInt8)) : Yields nextPiece pieces pieces .eof := by
  induction pieces with
  | nil => exact .done rfl
  | cons piece pieces ih => exact .more rfl ih

theorem readFull_append {front rest : List UInt8} (split : pieces.flatten = front ++ rest) :
    ∃ others, readFull front.length pieces = (some front, others) ∧ others.flatten = rest := by
  have ⟨others, read, left⟩ := Frames.readPieces_append split
  refine ⟨others, ?_, left⟩
  unfold readFull
  rw [read]

theorem readFrame_writeFrame {data : List UInt8} (fits : data.length < 2 ^ 16)
    (wire : pieces.flatten = writeFrame data) :
    (readFrame pieces).1 = some data := by
  rw [writeFrame, Nat.mod_eq_of_lt fits] at wire
  have number : ofBe (beBytes 2 data.length) = data.length := ofBe_beBytes_of_lt fits
  have ⟨others, header, left⟩ := readFull_append wire
  rw [beBytes_length] at header
  rw [← append_nil data] at left
  have ⟨rest, body, _⟩ := readFull_append left
  unfold readFrame
  rw [header]
  dsimp only
  rw [number, if_neg (by omega), body]

theorem wrapConnWithPQ_ok {pqSecret : List UInt8} (some : pqSecret ≠ []) :
    wrapConnWithPQ primitives pqSecret = .ok ⟨primitives.hkdf pqSecret pqHKDFInfo, 0⟩ := by
  unfold wrapConnWithPQ
  rw [if_neg (fun empty => some (length_eq_zero_iff.mp empty))]

theorem pqClient_answer {kem : KEM} (pair : KeyPair kem)
    {answer : List (List UInt8)} (received : answer.flatten = writeFrame pair.ciphertext) :
    pqClient primitives kem pair.privateKey answer =
      some ⟨primitives.hkdf pair.secret pqHKDFInfo, 0⟩ := by
  have frame := readFrame_writeFrame pair.ciphertext_fits received
  have shape : readFrame answer = (some pair.ciphertext, (readFrame answer).2) := Prod.ext frame rfl
  unfold pqClient
  rw [shape]
  dsimp only
  rw [pair.decapsulates]
  dsimp only
  rw [wrapConnWithPQ_ok primitives pair.secret_ne_nil]
  rfl

theorem beBytes_two_high {length : Nat} (large : 256 ≤ length) (fits : length < 2 ^ 16) :
    ∃ high low, beBytes 2 length = [high, low] ∧ high ≠ 0 := by
  have number : ofBe (beBytes 2 length) = length := ofBe_beBytes_of_lt fits
  match bytes : beBytes 2 length, beBytes_length 2 length with
  | [high, low], _ =>
    refine ⟨high, low, rfl, fun zero => ?_⟩
    have below : low.toNat < 256 := low.toNat_lt
    rw [bytes, zero] at number
    simp [ofBe] at number
    omega

theorem detect_classical
    (first : pieces.flatten.head? = some 0x00)
    (long : 3 ≤ pieces.flatten.length) :
    ∃ replay conn, detectAndHandlePQ primitives kem answered pieces =
        .ok (.classical replay conn) ∧
      peekRead.Delivers (replay, conn) pieces.flatten .eof := by
  have three : (pieces.flatten.take 3).length = 3 := length_take_of_le long
  have split : pieces.flatten = pieces.flatten.take 3 ++ pieces.flatten.drop 3 :=
    (take_append_drop 3 _).symm
  have ⟨rest, peeked, left⟩ := readFull_append split
  rw [three] at peeked
  have zero : (pieces.flatten.take 3).getD 0 0 = 0x00 := by
    cases bytes : pieces.flatten with
    | nil =>
      rw [bytes] at first
      cases first
    | cons byte behind =>
      rw [bytes] at first
      exact Option.some.inj first
  refine ⟨pieces.flatten.take 3, rest, ?_, ?_⟩
  · unfold detectAndHandlePQ
    rw [peeked]
    dsimp only
    rw [if_pos zero]
  · have delivers := Source.buffered_delivers (nextPiece_yields rest) (pieces.flatten.take 3)
    rw [left, ← split] at delivers
    exact delivers

theorem detect_postQuantum {kem : KEM} (pair : KeyPair kem)
    (large : 255 ≤ pair.publicKey.length) {behind : List UInt8}
    (wire : pieces.flatten = pqHello pair.publicKey ++ behind) :
    ∃ rest, detectAndHandlePQ primitives kem true pieces =
        .ok (.postQuantum (writeFrame pair.ciphertext)
          ⟨primitives.hkdf pair.secret pqHKDFInfo, 0, rest⟩) ∧
      rest.flatten = behind := by
  have fits := pair.publicKey_fits
  have number : ofBe (beBytes 2 (pair.publicKey.length + 1)) = pair.publicKey.length + 1 :=
    ofBe_beBytes_of_lt fits
  have ⟨high, low, header, nonzero⟩ := beBytes_two_high (by omega) fits
  rw [header] at number
  have shape : pieces.flatten =
      [high, low, handshakeVersionHybridPQ] ++ (pair.publicKey ++ behind) := by
    rw [wire, pqHello, writeFrame, length_cons, Nat.mod_eq_of_lt fits, header]
    rfl
  have ⟨others, peeked, left⟩ := readFull_append shape
  have ⟨rest, key, last⟩ := readFull_append left
  refine ⟨rest, ?_, last⟩
  have three : [high, low, handshakeVersionHybridPQ].length = 3 := rfl
  have marked : [high, low, handshakeVersionHybridPQ].getD 0 0 ≠ 0x00 := nonzero
  have version : [high, low, handshakeVersionHybridPQ].getD 2 0 = handshakeVersionHybridPQ := rfl
  rw [three] at peeked
  unfold detectAndHandlePQ
  rw [peeked]
  dsimp only
  rw [if_neg marked, if_pos version]
  unfold finishPQExchange
  have front : [high, low, handshakeVersionHybridPQ].take 2 = [high, low] := rfl
  rw [front, number, if_neg (by omega), Nat.add_sub_cancel, key]
  dsimp only
  rw [pair.encapsulates]
  dsimp only
  rw [if_neg (fun failed => Bool.false_ne_true failed.symm),
    wrapConnWithPQ_ok primitives pair.secret_ne_nil]

/-- For an ideal cipher and key encapsulation and streams cut anywhere, a classical client and a
post-quantum client with a public key of at least 255 bytes that fits a frame get the right branch,
and reads of any sizes yield exactly the classical stream, or what the client wrote once it had the
answer. -/
theorem pq_detection_transparent (primitives : Primitives) (aead : Aead primitives) (kem : KEM) :
    (∀ pieces, pieces.flatten.head? = some 0x00 → 3 ≤ pieces.flatten.length →
      ∃ replay conn, detectAndHandlePQ primitives kem true pieces = .ok (.classical replay conn) ∧
        peekRead.Delivers (replay, conn) pieces.flatten .eof) ∧
    ∀ pair : KeyPair kem, 255 ≤ pair.publicKey.length →
      ∃ client, (∀ answer, answer.flatten = writeFrame pair.ciphertext →
          pqClient primitives kem pair.privateKey answer = some client) ∧
        ∀ writes pieces,
          pieces.flatten = pqHello pair.publicKey ++ writeAll primitives client writes →
          ∃ conn, detectAndHandlePQ primitives kem true pieces =
              .ok (.postQuantum (writeFrame pair.ciphertext) conn) ∧
            (pqRead aead).Delivers ([], conn) writes.flatten (.read .eof) := by
  refine ⟨fun pieces first long => detect_classical primitives kem true first long,
    fun pair large => ⟨⟨primitives.hkdf pair.secret pqHKDFInfo, 0⟩,
      fun answer received => pqClient_answer primitives pair received, ?_⟩⟩
  intro writes pieces wire
  have ⟨rest, detected, left⟩ := detect_postQuantum primitives pair large wire
  exact ⟨_, detected, pq_delivers aead _ writes rest left⟩

def taggedPrimitives : Primitives where
  hkdf := fun _ _ => Vector.replicate keySize 0
  aeadSeal := fun _ _ plaintext => plaintext ++ replicate 16 0

def taggedAead : Aead taggedPrimitives where
  aeadOpen _ _ ciphertext := some (ciphertext.take (ciphertext.length - 16))
  aeadOpen_aeadSeal _ _ plaintext := by simp [taggedPrimitives]
  aeadSeal_length _ _ plaintext := by simp [taggedPrimitives]

def fixedKEM : KEM := ⟨fun _ => some ([7], [8]), fun _ _ => some [7]⟩

def hybridPair : KeyPair fixedKEM where
  publicKey := replicate 1216 9
  privateKey := []
  secret := [7]
  ciphertext := [8]
  secret_ne_nil := cons_ne_nil _ _
  encapsulates := rfl
  decapsulates := rfl
  publicKey_fits := by
    rw [length_replicate]
    decide
  ciphertext_fits := by decide

theorem hybrid_client_read :
    ∃ client, pqClient taggedPrimitives fixedKEM [] [writeFrame [8]] = some client ∧
      ∃ conn, detectAndHandlePQ taggedPrimitives fixedKEM true
          [pqHello hybridPair.publicKey, writeAll taggedPrimitives client [[1, 2], [3]]] =
            .ok (.postQuantum (writeFrame [8]) conn) ∧
        (pqRead taggedAead).Delivers ([], conn) [1, 2, 3] (.read .eof) := by
  have large : 255 ≤ hybridPair.publicKey.length := by
    unfold hybridPair
    rw [length_replicate]
    decide
  have ⟨_, exchange⟩ := pq_detection_transparent taggedPrimitives taggedAead fixedKEM
  have ⟨client, derived, read⟩ := exchange hybridPair large
  refine ⟨client, derived [writeFrame [8]] (append_nil _), ?_⟩
  exact read [[1, 2], [3]] [pqHello hybridPair.publicKey, _]
    (by rw [flatten_cons, flatten_cons, flatten_nil, append_nil])

end Shuttle.Reality
