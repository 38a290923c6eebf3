import Mathlib.Data.List.Nodup
import Shuttle.Go.Text
import Shuttle.Go.Words

/-!
# The post-quantum session layer and its nonces

Both endpoints of a session derive one key from the shared secret and seal their frames under a
counter that starts at zero on each side. Key derivation and the cipher are parameters; what is
modelled is which key and nonce each frame is sealed under. Across the two directions the first
frames collide.
-/

namespace Shuttle.Reality

open Shuttle.Go Function

def keySize : Nat := 32

def nonceSizeX : Nat := 24

def pqFrameMaxPlaintext : Nat := 16384

def pqHKDFInfo : GoString := lit "shuttle-reality-pq-v1"

/-- The cryptographic functions: key derivation from a secret and a context, and sealing a
plaintext under a key and a nonce. -/
structure Primitives where
  hkdf : List UInt8 → List UInt8 → Vector UInt8 keySize
  aeadSeal : Vector UInt8 keySize → List UInt8 → List UInt8 → List UInt8

structure PQConn where
  key : Vector UInt8 keySize
  writeNonce : UInt64

inductive WrapError where
  | emptySecret

/-- Wrap one side of a connection. Neither side adds anything of its own to the derivation. -/
def wrapConnWithPQ (primitives : Primitives) (pqSecret : List UInt8) : Except WrapError PQConn :=
  if pqSecret.length = 0 then .error .emptySecret
  else .ok { key := primitives.hkdf pqSecret pqHKDFInfo, writeNonce := 0 }

/-- The counter in the first eight bytes, least significant first, and zeros. -/
def makeNonce (counter : UInt64) : List UInt8 :=
  (beBytes 8 counter.toNat).reverse ++ List.replicate (nonceSizeX - 8) 0

structure Sealed where
  key : Vector UInt8 keySize
  nonce : List UInt8
  plaintext : List UInt8

inductive Transfer where
  | sent
  | headerFailed
  | bodyFailed

structure Written where
  conn : PQConn
  frames : List Sealed
  wire : List UInt8
  count : Nat
  failed : Bool

namespace PQConn

/-- Every round seals at most `pqFrameMaxPlaintext` bytes under the next nonce; the first argument
bounds the rounds. -/
def writeFrames (primitives : Primitives) (transfer : Nat → Transfer) :
    Nat → PQConn → List UInt8 → Written
  | 0, conn, _ => ⟨conn, [], [], 0, false⟩
  | fuel + 1, conn, p =>
    if p.length = 0 then ⟨conn, [], [], 0, false⟩
    else
      let chunk := p.take pqFrameMaxPlaintext
      let nonce := makeNonce conn.writeNonce
      let frame : Sealed := ⟨conn.key, nonce, chunk⟩
      let conn := { conn with writeNonce := conn.writeNonce + 1 }
      let ciphertext := primitives.aeadSeal conn.key nonce chunk
      let header := beBytes 2 (ciphertext.length % 2 ^ 16)
      match transfer fuel with
      | .headerFailed => ⟨conn, [frame], [], 0, true⟩
      | .bodyFailed => ⟨conn, [frame], header, 0, true⟩
      | .sent =>
        let rest := writeFrames primitives transfer fuel conn (p.drop chunk.length)
        { rest with
          frames := frame :: rest.frames
          wire := header ++ ciphertext ++ rest.wire
          count := chunk.length + rest.count }

/-- Write a payload: a round per byte is more than the loop can take. -/
def write (primitives : Primitives) (transfer : Nat → Transfer) (conn : PQConn) (p : List UInt8) :
    Written :=
  writeFrames primitives transfer p.length conn p

end PQConn

inductive Side where
  | client
  | server
deriving DecidableEq, Repr

structure WriteCall where
  side : Side
  payload : List UInt8
  transfer : Nat → Transfer

abbrev Session := Side → PQConn

namespace Session

/-- The cipher calls of a run of writes on both endpoints, each with its endpoint. -/
def sealedBy (primitives : Primitives) (session : Session) : List WriteCall → List (Side × Sealed)
  | [] => []
  | call :: calls =>
    let written := (session call.side).write primitives call.transfer call.payload
    written.frames.map (fun frame => (call.side, frame)) ++
      sealedBy primitives (Function.update session call.side written.conn) calls

def framesOf (log : List (Side × Sealed)) (side : Side) : List Sealed :=
  (log.filter fun entry => entry.1 = side).map Prod.snd

/-- No key and nonce are used for two frames, of the two endpoints together. -/
def NoncesUnique (log : List (Side × Sealed)) : Prop :=
  (log.map fun entry => (entry.2.key, entry.2.nonce)).Nodup

end Session

/-! ## Nonces of one endpoint -/

theorem makeNonce_injective : Function.Injective makeNonce := by
  intro left right same
  have widthLeft : ((beBytes 8 left.toNat).reverse).length = 8 := by
    rw [List.length_reverse, beBytes_length]
  have widthRight : ((beBytes 8 right.toNat).reverse).length = 8 := by
    rw [List.length_reverse, beBytes_length]
  have heads := (List.append_inj same (widthLeft.trans widthRight.symm)).1
  have bytes := List.reverse_injective heads
  have numbers := congrArg ofBe bytes
  rw [ofBe_beBytes_of_lt (left.toNat_lt), ofBe_beBytes_of_lt (right.toNat_lt)] at numbers
  exact UInt64.toNat_inj.mp numbers

/-- Frames under one key whose nonces count up from a start. -/
def CountsFrom (key : Vector UInt8 keySize) (first : Nat) (frames : List Sealed) : Prop :=
  frames.map (fun frame => (frame.key, frame.nonce)) =
    (List.range' first frames.length).map fun k => (key, makeNonce (UInt64.ofNat k))

theorem CountsFrom.append {key : Vector UInt8 keySize} {first : Nat} {before after : List Sealed}
    (counted : CountsFrom key first before)
    (continued : CountsFrom key (first + before.length) after) :
    CountsFrom key first (before ++ after) := by
  unfold CountsFrom at *
  rw [List.map_append, counted, continued, List.length_append, ← List.map_append,
    List.range'_append_1]

variable (primitives : Primitives) (transfer : Nat → Transfer)

theorem writeFrames_counts (fuel : Nat) :
    ∀ (conn : PQConn) (p : List UInt8) (first : Nat), conn.writeNonce = UInt64.ofNat first →
      let written := PQConn.writeFrames primitives transfer fuel conn p
      CountsFrom conn.key first written.frames ∧ written.conn.key = conn.key ∧
        written.conn.writeNonce = UInt64.ofNat (first + written.frames.length) := by
  induction fuel with
  | zero =>
    intro conn p first counter
    exact ⟨rfl, rfl, counter⟩
  | succ fuel ih =>
    intro conn p first counter
    have stepped : conn.writeNonce + 1 = UInt64.ofNat (first + 1) := by
      rw [counter, UInt64.ofNat_add]
      rfl
    have single : CountsFrom conn.key first
        [⟨conn.key, makeNonce conn.writeNonce, p.take pqFrameMaxPlaintext⟩] := by
      rw [counter]
      rfl
    unfold PQConn.writeFrames
    by_cases empty : p.length = 0
    · rw [if_pos empty]
      exact ⟨rfl, rfl, counter⟩
    · rw [if_neg empty]
      cases transfer fuel with
      | headerFailed | bodyFailed => exact ⟨single, rfl, stepped⟩
      | sent =>
        have ⟨counted, key, moved⟩ := ih { conn with writeNonce := conn.writeNonce + 1 }
          (p.drop (p.take pqFrameMaxPlaintext).length) (first + 1) stepped
        refine ⟨single.append counted, key, ?_⟩
        rw [moved, List.length_cons]
        congr 1
        omega

theorem write_frames_nil (conn : PQConn)
    (p : List UInt8) : (conn.write primitives transfer p).frames = [] ↔ p = [] := by
  unfold PQConn.write
  cases p with
  | nil =>
    simp [PQConn.writeFrames]
  | cons byte rest =>
    unfold PQConn.writeFrames
    simp only [List.length_cons]
    cases transfer rest.length with
    | headerFailed | bodyFailed | sent => simp

theorem writeFrames_seals_payload
    (taken : ∀ round, transfer round = .sent) (fuel : Nat) (conn : PQConn) (p : List UInt8)
    (enough : p.length ≤ fuel) :
    let written := PQConn.writeFrames primitives transfer fuel conn p
    written.frames.flatMap Sealed.plaintext = p ∧ written.count = p.length ∧
      written.failed = false := by
  induction fuel generalizing conn p with
  | zero =>
    have empty : p = [] := List.length_eq_zero_iff.mp (Nat.le_zero.mp enough)
    subst empty
    exact ⟨rfl, rfl, rfl⟩
  | succ fuel ih =>
    unfold PQConn.writeFrames
    by_cases empty : p.length = 0
    · have none : p = [] := List.length_eq_zero_iff.mp empty
      subst none
      exact ⟨rfl, rfl, rfl⟩
    · rw [if_neg empty]
      rw [taken fuel]
      dsimp only
      have chunk : (p.take pqFrameMaxPlaintext).length = min pqFrameMaxPlaintext p.length :=
        List.length_take
      have remaining : (p.drop (p.take pqFrameMaxPlaintext).length).length ≤ fuel := by
        rw [List.length_drop, chunk]
        unfold pqFrameMaxPlaintext
        omega
      have ⟨plaintext, count, succeeded⟩ := ih { conn with writeNonce := conn.writeNonce + 1 }
        (p.drop (p.take pqFrameMaxPlaintext).length) remaining
      have same : p.drop (p.take pqFrameMaxPlaintext).length = p.drop pqFrameMaxPlaintext := by
        rw [chunk]
        by_cases short : p.length ≤ pqFrameMaxPlaintext
        · rw [Nat.min_eq_right short, List.drop_length, List.drop_eq_nil_of_le short]
        · rw [Nat.min_eq_left (by omega)]
      refine ⟨?_, ?_, succeeded⟩
      · rw [List.flatMap_cons, plaintext, same, List.take_append_drop]
      · rw [count, List.length_drop]
        omega

/-! ## Nonces of a session -/

namespace Session

theorem framesOf_append (before after : List (Side × Sealed)) (side : Side) :
    framesOf (before ++ after) side = framesOf before side ++ framesOf after side := by
  unfold framesOf
  rw [List.filter_append, List.map_append]

theorem framesOf_tagged (frames : List Sealed) (writer side : Side) :
    framesOf (frames.map fun frame => (writer, frame)) side =
      if writer = side then frames else [] := by
  unfold framesOf
  rw [List.filter_map]
  by_cases same : writer = side <;> simp [same]

variable (primitives : Primitives)

theorem sealedBy_counts (calls : List WriteCall) (session : Session) (firsts : Side → Nat)
    (counters : ∀ side, (session side).writeNonce = UInt64.ofNat (firsts side)) (side) :
    CountsFrom (session side).key (firsts side) (framesOf (sealedBy primitives session calls)
      side) := by
  induction calls generalizing session firsts side with
  | nil =>
    rfl
  | cons call calls ih =>
    have ⟨counted, key, moved⟩ := writeFrames_counts primitives call.transfer call.payload.length
      (session call.side) call.payload (firsts call.side) (counters call.side)
    have sameKey : ((session call.side).write primitives call.transfer call.payload).conn.key =
        (session call.side).key := key
    have later := ih
      (Function.update session call.side
        ((session call.side).write primitives call.transfer call.payload).conn)
      (Function.update firsts call.side (firsts call.side +
        ((session call.side).write primitives call.transfer call.payload).frames.length))
      (fun other => by
        by_cases here : other = call.side
        · rw [here, update_self, update_self]
          exact moved
        · rw [update_of_ne here, update_of_ne here]
          exact counters other) side
    unfold sealedBy
    rw [framesOf_append, framesOf_tagged]
    by_cases same : call.side = side
    · subst same
      rw [update_self, update_self, sameKey] at later
      rw [if_pos rfl]
      exact CountsFrom.append counted later
    · rw [update_of_ne (Ne.symm same), update_of_ne (Ne.symm same)] at later
      rw [if_neg same]
      exact later

theorem framesOf_nil_iff (side : Side) (calls : List WriteCall) :
    ∀ session : Session, framesOf (sealedBy primitives session calls) side = [] ↔
      ∀ call ∈ calls, call.side = side → call.payload = [] := by
  induction calls with
  | nil =>
    intro session
    simp [sealedBy, framesOf]
  | cons call calls ih =>
    intro session
    unfold sealedBy
    rw [framesOf_append, framesOf_tagged, List.append_eq_nil_iff, ih, List.forall_mem_cons]
    refine and_congr_left' ?_
    by_cases same : call.side = side
    · rw [if_pos same, write_frames_nil]
      exact ⟨fun empty _ => empty, fun empty => empty same⟩
    · rw [if_neg same]
      exact ⟨fun _ equal => absurd equal same, fun _ => rfl⟩

theorem exists_first {key : Vector UInt8 keySize} {log : List (Side × Sealed)} {side : Side}
    (counted : CountsFrom key 0 (framesOf log side)) (some : framesOf log side ≠ []) :
    ∃ frame, (side, frame) ∈ log ∧ frame.key = key ∧ frame.nonce = makeNonce 0 := by
  cases frames : framesOf log side with
  | nil => exact absurd frames some
  | cons frame rest =>
    have member : frame ∈ framesOf log side := by
      rw [frames]
      exact List.mem_cons_self
    unfold CountsFrom at counted
    rw [frames, List.length_cons, List.range'_succ] at counted
    have head := (List.cons.inj counted).1
    refine ⟨frame, ?_, congrArg Prod.fst head, congrArg Prod.snd head⟩
    have ⟨entry, kept, same⟩ := List.mem_map.mp member
    have ⟨inLog, tagged⟩ := List.mem_filter.mp kept
    have side_eq := of_decide_eq_true tagged
    rw [← same, ← side_eq]
    exact inLog

theorem log_eq_of_other_nil {log : List (Side × Sealed)} {side : Side}
    (silent : ∀ other, other ≠ side → framesOf log other = []) :
    log.map Prod.snd = framesOf log side := by
  have only : ∀ entry ∈ log, entry.1 = side := by
    intro entry member
    by_contra different
    have none := silent entry.1 different
    unfold framesOf at none
    have kept : entry ∈ log.filter fun other => other.1 = entry.1 := by
      simp [member]
    rw [List.map_eq_nil_iff] at none
    rw [none] at kept
    contradiction
  unfold framesOf
  rw [List.filter_eq_self.mpr (fun entry member => decide_eq_true (only entry member))]

theorem nodup_of_counts {key : Vector UInt8 keySize} {frames : List Sealed}
    (counted : CountsFrom key 0 frames) (few : frames.length < 2 ^ 64) :
    (frames.map fun frame => (frame.key, frame.nonce)).Nodup := by
  rw [counted]
  refine List.Nodup.map_on ?_ (List.nodup_range' ..)
  intro left leftIn right rightIn same
  have words := makeNonce_injective (congrArg Prod.snd same)
  have numbers := congrArg UInt64.toNat words
  have leftBelow := List.mem_range'_1.mp leftIn
  have rightBelow := List.mem_range'_1.mp rightIn
  rw [UInt64.toNat_ofNat_of_lt' (show left < 2 ^ 64 by omega),
    UInt64.toNat_ofNat_of_lt' (show right < 2 ^ 64 by omega)] at numbers
  exact numbers

def ofEndpoints (client server : PQConn) : Session
  | .client => client
  | .server => server

theorem wrapped_same {pqSecret : List UInt8} {client server : PQConn}
    (wrappedClient : wrapConnWithPQ primitives pqSecret = .ok client)
    (wrappedServer : wrapConnWithPQ primitives pqSecret = .ok server) :
    server = client ∧ client.writeNonce = UInt64.ofNat 0 := by
  rw [wrappedClient] at wrappedServer
  refine ⟨(Except.ok.inj wrappedServer).symm, ?_⟩
  unfold wrapConnWithPQ at wrappedClient
  split at wrappedClient
  · contradiction
  · rw [← Except.ok.inj wrappedClient]
    rfl

/-- In every run with fewer than `2^64` frames a side, no key and nonce seal two frames exactly when
one of the endpoints is given only empty payloads. -/
theorem noncesUnique_iff_one_sided (pqSecret : List UInt8) (client server : PQConn)
    (wrappedClient : wrapConnWithPQ primitives pqSecret = .ok client)
    (wrappedServer : wrapConnWithPQ primitives pqSecret = .ok server) (calls : List WriteCall)
    (few : ∀ side, (framesOf (sealedBy primitives (ofEndpoints client server) calls) side).length <
      2 ^ 64) :
    NoncesUnique (sealedBy primitives (ofEndpoints client server) calls) ↔
      (∀ call ∈ calls, call.side = .client → call.payload = []) ∨
        (∀ call ∈ calls, call.side = .server → call.payload = []) := by
  have ⟨same, fresh⟩ := wrapped_same primitives wrappedClient wrappedServer
  subst same
  have counters : ∀ side, (ofEndpoints server server side).writeNonce = UInt64.ofNat 0 := by
    intro side
    cases side with
    | client | server => exact fresh
  have keys : ∀ side, (ofEndpoints server server side).key = server.key := by
    intro side
    cases side with
    | client | server => rfl
  have counted := sealedBy_counts primitives calls (ofEndpoints server server) (fun _ => 0) counters
  have silent (side : Side) := framesOf_nil_iff primitives side calls (ofEndpoints server server)
  rw [← silent .client, ← silent .server]
  constructor
  · intro unique
    by_contra both
    rw [not_or] at both
    have ⟨first, firstIn, firstKey, firstNonce⟩ := exists_first (counted .client) both.1
    have ⟨second, secondIn, secondKey, secondNonce⟩ := exists_first (counted .server) both.2
    have use : (first.key, first.nonce) = (second.key, second.nonce) := by
      rw [firstKey, firstNonce, secondKey, secondNonce, keys, keys]
    have entries := List.inj_on_of_nodup_map unique firstIn secondIn use
    have sides := congrArg Prod.fst entries
    contradiction
  · intro one
    have ⟨side, others⟩ : ∃ side, ∀ other, other ≠ side →
        framesOf (sealedBy primitives (ofEndpoints server server) calls) other = [] := by
      rcases one with none | none
      · refine ⟨.server, fun other different => ?_⟩
        cases other with
        | client => exact none
        | server => contradiction
      · refine ⟨.client, fun other different => ?_⟩
        cases other with
        | client => contradiction
        | server => exact none
    have whole := log_eq_of_other_nil others
    have distinct := nodup_of_counts (counted side) (few side)
    rw [← whole, List.map_map] at distinct
    exact distinct

end Session

/-- A stand-in for the primitives, to run the model on fixed inputs. -/
def plainPrimitives : Primitives where
  hkdf := fun _ _ => Vector.replicate keySize 0
  aeadSeal := fun _ _ plaintext => plaintext

def writeOf (side : Side) (payload : List UInt8) : WriteCall := ⟨side, payload, fun _ => .sent⟩

def plainConn : PQConn := ⟨Vector.replicate keySize 0, 0⟩

/-- Both sides of the law: two writes of the client alone are unique, one byte from each endpoint
is not. -/
theorem noncesUnique_client_only_not_both :
    Session.NoncesUnique (Session.sealedBy plainPrimitives (Session.ofEndpoints plainConn plainConn)
        [writeOf .client [1], writeOf .client [2]]) ∧
      ¬Session.NoncesUnique (Session.sealedBy plainPrimitives
        (Session.ofEndpoints plainConn plainConn) [writeOf .client [1], writeOf .server [2]]) := by
  have law (calls : List WriteCall) (few : ∀ side, (Session.framesOf (Session.sealedBy
      plainPrimitives (Session.ofEndpoints plainConn plainConn) calls) side).length < 2 ^ 64) :=
    Session.noncesUnique_iff_one_sided plainPrimitives [7] plainConn plainConn rfl rfl calls few
  constructor
  · refine (law _ (fun side => by cases side <;> decide)).mpr (.inr ?_)
    intro call member side
    simp only [List.mem_cons, List.not_mem_nil, or_false] at member
    rcases member with rfl | rfl <;> contradiction
  · intro unique
    rcases (law _ (fun side => by cases side <;> decide)).mp unique with empty | empty
    · exact absurd (empty (writeOf .client [1]) (by simp) rfl) (by decide)
    · exact absurd (empty (writeOf .server [2]) (by simp) rfl) (by decide)

/-- One byte written by each endpoint is sealed under the same key and nonce. -/
theorem first_frames_collide :
    wrapConnWithPQ plainPrimitives [7] = .ok plainConn ∧
      (Session.sealedBy plainPrimitives (Session.ofEndpoints plainConn plainConn)
        [writeOf .client [1], writeOf .server [2]]).map
          (fun entry => (entry.1, entry.2.key, entry.2.nonce)) =
        [(.client, Vector.replicate keySize 0, List.replicate nonceSizeX 0),
          (.server, Vector.replicate keySize 0, List.replicate nonceSizeX 0)] :=
  ⟨rfl, by decide⟩

end Shuttle.Reality
