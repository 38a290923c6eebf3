import Shuttle.Lib.Reader
import Shuttle.Lib.Frames
import Shuttle.Reality.PQConn

/-!
# The post-quantum session layer as a stream

`pqConn.Write` of `transport/reality/pqwrap.go` cuts what is written into sealed frames, and
`pqConn.Read` opens one frame at a time and keeps what does not fit the caller's buffer. With an
ideal cipher, one key and both counters at zero, reads of any sizes return what was written,
wherever the connection cuts the frames.
-/

namespace Shuttle.Reality

open Shuttle.Go Shuttle.Lib

/-! ## Reading -/

structure Aead (primitives : Primitives) where
  /-- Open a ciphertext; none for what was not sealed under the key and the nonce. -/
  aeadOpen : Vector UInt8 keySize → List UInt8 → List UInt8 → Option (List UInt8)
  aeadOpen_aeadSeal : ∀ key nonce plaintext,
    aeadOpen key nonce (primitives.aeadSeal key nonce plaintext) = some plaintext
  aeadSeal_length : ∀ key nonce plaintext,
    (primitives.aeadSeal key nonce plaintext).length = plaintext.length + 16

/-- The reading half of a wrapped connection, what is left of the frame opened last apart. -/
structure PQReader where
  key : Vector UInt8 keySize
  readNonce : UInt64
  conn : List (List UInt8)

inductive PQReadError where
  | read (cause : Frames.FrameError)
  /-- "zero-length ciphertext frame". -/
  | zeroLength
  /-- "decrypt". -/
  | decrypt

section Streams

variable {primitives : Primitives}

variable (aead : Aead primitives)

def readSealed (reader : PQReader) : Except PQReadError (List UInt8 × PQReader) :=
  match Frames.readPieces 2 [] reader.conn with
  | .error cause => .error (.read cause)
  | .ok (header, rest) =>
    if ofBe header = 0 then .error .zeroLength
    else
      match Frames.readPieces (ofBe header) [] rest with
      | .error cause => .error (.read cause)
      | .ok (ciphertext, rest) =>
        match aead.aeadOpen reader.key (makeNonce reader.readNonce) ciphertext with
        | none => .error .decrypt
        | some plaintext =>
          .ok (plaintext, ⟨reader.key, reader.readNonce + 1, rest⟩)

def pqRead : Source (List UInt8 × PQReader) UInt8 PQReadError :=
  Source.buffered (readSealed aead)

/-! ## Frames -/

def sealFrames (primitives : Primitives) (key : Vector UInt8 keySize) :
    UInt64 → List (List UInt8) → List UInt8
  | _, [] => []
  | counter, chunk :: chunks =>
    let ciphertext := primitives.aeadSeal key (makeNonce counter) chunk
    beBytes 2 (ciphertext.length % 2 ^ 16) ++ ciphertext ++
      sealFrames primitives key (counter + 1) chunks

theorem sealFrames_append (key : Vector UInt8 keySize) (before after : List (List UInt8))
      (counter) :
    sealFrames primitives key counter (before ++ after) =
      sealFrames primitives key counter before ++
      sealFrames primitives key (counter + UInt64.ofNat before.length) after := by
  induction before generalizing counter with
  | nil =>
    rw [sealFrames]
    simp
  | cons chunk before ih =>
    have moved : counter + 1 + UInt64.ofNat before.length =
        counter + UInt64.ofNat (chunk :: before).length := by
      rw [List.length_cons, UInt64.ofNat_add, UInt64.add_assoc,
        UInt64.add_comm 1 (UInt64.ofNat before.length)]
      rfl
    rw [List.cons_append, sealFrames, sealFrames, ih, moved]
    simp

theorem readSealed_sealFrames {reader : PQReader} {chunk : List UInt8}
    {chunks : List (List UInt8)} (small : chunk.length ≤ pqFrameMaxPlaintext)
    (wire : reader.conn.flatten =
      sealFrames primitives reader.key reader.readNonce (chunk :: chunks)) :
    ∃ rest, readSealed aead reader = .ok (chunk, ⟨reader.key, reader.readNonce + 1, rest⟩) ∧
      rest.flatten = sealFrames primitives reader.key (reader.readNonce + 1) chunks := by
  rw [sealFrames] at wire
  have size := aead.aeadSeal_length reader.key (makeNonce reader.readNonce) chunk
  have opened := aead.aeadOpen_aeadSeal reader.key (makeNonce reader.readNonce) chunk
  generalize primitives.aeadSeal reader.key (makeNonce reader.readNonce) chunk = ciphertext
    at wire size opened
  unfold pqFrameMaxPlaintext at small
  have number : ofBe (beBytes 2 (ciphertext.length % 2 ^ 16)) = ciphertext.length := by
    rw [Nat.mod_eq_of_lt (by omega)]
    exact ofBe_beBytes_of_lt (by omega)
  rw [List.append_assoc] at wire
  have ⟨others, header, left⟩ := Frames.readPieces_append wire
  have ⟨rest, body, behind⟩ := Frames.readPieces_append left
  rw [beBytes_length] at header
  refine ⟨rest, ?_, behind⟩
  unfold readSealed
  rw [header]
  dsimp only
  rw [number, if_neg (by omega), body]
  dsimp only
  rw [opened]

theorem sealFrames_yields (key : Vector UInt8 keySize) (chunks : List (List UInt8))
    (counter : UInt64) (pieces : List (List UInt8))
    (small : ∀ chunk ∈ chunks, chunk.length ≤ pqFrameMaxPlaintext)
    (wire : pieces.flatten = sealFrames primitives key counter chunks) :
    Yields (readSealed aead) ⟨key, counter, pieces⟩ chunks (.read .eof) := by
  induction chunks generalizing counter pieces with
  | nil =>
    have ended := Frames.readPieces_eof Nat.two_pos wire
    refine .done ?_
    unfold readSealed
    rw [ended]
  | cons chunk chunks ih =>
    have ⟨rest, opened, behind⟩ := @readSealed_sealFrames _ aead ⟨key, counter, pieces⟩ chunk chunks
      (small chunk List.mem_cons_self) wire
    have smaller : ∀ other ∈ chunks, other.length ≤ pqFrameMaxPlaintext :=
      fun other member => small other (List.mem_cons_of_mem _ member)
    exact .more opened (ih (counter + 1) rest smaller behind)

/-! ## Writing -/

/-- The bytes of payloads written one after the other, over a connection that takes them. -/
def writeAll (primitives : Primitives) : PQConn → List (List UInt8) → List UInt8
  | _, [] => []
  | conn, p :: ps =>
    let written := conn.write primitives (fun _ => .sent) p
    written.wire ++ writeAll primitives written.conn ps

theorem writeFrames_wire (primitives : Primitives) (fuel : Nat) :
    ∀ (conn : PQConn) (p : List UInt8),
    let written := PQConn.writeFrames primitives (fun _ => .sent) fuel conn p
    written.wire = sealFrames primitives conn.key conn.writeNonce
        (written.frames.map Sealed.plaintext) ∧
      ∀ frame ∈ written.frames, frame.plaintext.length ≤ pqFrameMaxPlaintext := by
  induction fuel with
  | zero =>
    intro conn p
    exact ⟨rfl, nofun⟩
  | succ fuel ih =>
    intro conn p
    unfold PQConn.writeFrames
    by_cases empty : p.length = 0
    · rw [if_pos empty]
      exact ⟨rfl, List.forall_mem_nil _⟩
    · rw [if_neg empty]
      have later := ih { conn with writeNonce := conn.writeNonce + 1 }
        (p.drop (p.take pqFrameMaxPlaintext).length)
      dsimp only at later ⊢
      refine ⟨by rw [later.1, List.map_cons, sealFrames], ?_⟩
      rw [List.forall_mem_cons]
      exact ⟨List.length_take_le _ _, later.2⟩

theorem writeAll_seals (payloads : List (List UInt8)) (conn : PQConn) :
    ∃ chunks : List (List UInt8), writeAll primitives conn payloads =
      sealFrames primitives conn.key conn.writeNonce chunks ∧
      (∀ chunk ∈ chunks, chunk.length ≤ pqFrameMaxPlaintext) ∧
      chunks.flatten = payloads.flatten := by
  induction payloads generalizing conn with
  | nil =>
    exact ⟨[], rfl, nofun, rfl⟩
  | cons p ps ih =>
    have ⟨wire, sizes⟩ := writeFrames_wire primitives p.length conn p
    have ⟨plaintext, _⟩ := writeFrames_seals_payload primitives (fun _ => .sent) (fun _ => rfl)
      p.length conn p (Nat.le_refl _)
    have ⟨_, key, moved⟩ := writeFrames_counts primitives (fun _ => .sent) p.length conn p
      conn.writeNonce.toNat (UInt64.ofNat_toNat).symm
    have ⟨chunks, later, small, rest⟩ := ih (conn.write primitives (fun _ => .sent) p).conn
    refine ⟨((conn.write primitives (fun _ => .sent) p).frames.map Sealed.plaintext) ++ chunks,
      ?_, ?_, ?_⟩
    · rw [sealFrames_append, List.length_map, writeAll, later]
      unfold PQConn.write
      rw [key, moved, UInt64.ofNat_add, UInt64.ofNat_toNat, ← wire]
    · intro chunk member
      rcases List.mem_append.mp member with first | other
      · have ⟨frame, listed, same⟩ := List.mem_map.mp first
        rw [← same]
        exact sizes frame listed
      · exact small chunk other
    · have first : ((conn.write primitives (fun _ => .sent) p).frames.map
          Sealed.plaintext).flatten = p := plaintext
      rw [List.flatten_append, first, rest, List.flatten_cons]

theorem pq_delivers (conn : PQConn) (payloads pieces : List (List UInt8))
    (wire : pieces.flatten = writeAll primitives conn payloads) :
    (pqRead aead).Delivers ([], ⟨conn.key, conn.writeNonce, pieces⟩) payloads.flatten
      (.read .eof) := by
  have ⟨chunks, frames, small, same⟩ := @writeAll_seals primitives payloads conn
  rw [← same]
  exact Source.buffered_delivers
    (sealFrames_yields aead conn.key chunks conn.writeNonce pieces small (wire.trans frames)) []

end Streams

end Shuttle.Reality
