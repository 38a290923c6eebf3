import Shuttle.Go.Text
import Shuttle.Lib.Frames
import Shuttle.Lib.Reader

/-!
# The gRPC tunnel of the CDN transport

`grpcDuplex` of `transport/cdn/grpc.go` puts every write into one gRPC frame, a flag byte, four
bytes of length and the payload, and reads hand out the payloads in the sizes they are asked for.
`Dial` sends the authentication with `sendGRPCAuth`, which makes a frame of its own, so that the
frame is framed again.
-/

namespace Shuttle.CDN

open Shuttle.Go Shuttle.Lib List

/-! ## Frames -/

def maxFrameSize : Nat := 4 * 2 ^ 20

def frameHeader (length : Nat) : List UInt8 := 0 :: beBytes 4 (length % 2 ^ 32)

def duplexWrite (p : List UInt8) : List UInt8 := frameHeader p.length ++ p

/-- Read one frame; an empty one gives a read of no bytes. -/
def readFrame (wire : List UInt8) : Except Frames.FrameError (List UInt8 × List UInt8) :=
  match Frames.readFull 5 wire with
  | .error error => .error error
  | .ok (hdr, rest) =>
    let length := ofBe (hdr.drop 1)
    if length = 0 then .ok ([], rest)
    else if maxFrameSize < length then .error .refused
    else Frames.readFull length rest

def duplex : Source (List UInt8 × List UInt8) UInt8 Frames.FrameError :=
  Source.buffered readFrame

theorem readFrame_duplexWrite {p : List UInt8} (small : p.length ≤ maxFrameSize)
    (rest : List UInt8) : readFrame (duplexWrite p ++ rest) = .ok (p, rest) := by
  have fits : p.length < 2 ^ 32 := Nat.lt_of_le_of_lt small (by decide)
  have five : (frameHeader p.length).length = 5 := by
    rw [frameHeader, length_cons, beBytes_length]
  have header := Frames.readFull_append (frameHeader p.length) (p ++ rest)
  have number : ofBe ((frameHeader p.length).drop 1) = p.length := by
    rw [frameHeader, drop_one, Nat.mod_eq_of_lt fits]
    exact ofBe_beBytes_of_lt fits
  rw [five] at header
  unfold readFrame
  rw [duplexWrite, append_assoc, header]
  dsimp only
  rw [number]
  split
  · rename_i empty
    rw [eq_nil_of_length_eq_zero empty, nil_append]
  · rw [if_neg (Nat.not_lt.mpr small)]
    exact Frames.readFull_append p rest

theorem duplex_delivers {writes : List (List UInt8)}
    (small : ∀ p ∈ writes, p.length ≤ maxFrameSize) :
    duplex.Delivers ([], writes.flatMap duplexWrite) writes.flatten .eof := by
  have yields := yields_flatMap duplexWrite id (rfl : readFrame [] = .error .eof) writes
    fun p member => readFrame_duplexWrite (small p member)
  rw [map_id] at yields
  exact Source.buffered_delivers yields []

/-! ## Authentication -/

structure AuthPayload (hmac : GoString → List UInt8 → List UInt8) (password : GoString) where
  nonce : List UInt8
  nonceSize : nonce.length = 32
  macSize : (hmac password nonce).length = 32

def AuthPayload.bytes {hmac : GoString → List UInt8 → List UInt8} {password : GoString}
    (auth : AuthPayload hmac password) : List UInt8 :=
  auth.nonce ++ hmac password auth.nonce

theorem AuthPayload.bytes_length {hmac : GoString → List UInt8 → List UInt8} {password : GoString}
    (auth : AuthPayload hmac password) : auth.bytes.length = 64 := by
  rw [bytes, length_append, auth.nonceSize, auth.macSize]

section Dial

variable {hmac : GoString → List UInt8 → List UInt8} {password : GoString}

/-- The authentication is sent as a gRPC frame through a writer. -/
def sendGRPCAuth (write : List UInt8 → List UInt8) (auth : AuthPayload hmac password) :
    List UInt8 :=
  write (frameHeader 64 ++ auth.bytes)

variable (auth : AuthPayload hmac password)

def dialWire (writes : List (List UInt8)) : List UInt8 :=
  sendGRPCAuth duplexWrite auth ++ writes.flatMap duplexWrite

theorem auth_frame : frameHeader 64 ++ auth.bytes = duplexWrite auth.bytes := by
  rw [duplexWrite, auth.bytes_length]

end Dial

/-- The peer of a dialed client receives the five bytes of a frame header in front of the
authentication payload and the written data, and so never exactly the payload and the data; it would
if the authentication were sent past the duplex. -/
theorem grpc_tunnel_repeats_header (hmac : GoString → List UInt8 → List UInt8)
    (password : GoString) (auth : AuthPayload hmac password) (writes : List (List UInt8))
    (small : ∀ p ∈ writes, p.length ≤ maxFrameSize) :
    duplex.Delivers ([], dialWire auth writes)
        (frameHeader 64 ++ auth.bytes ++ writes.flatten) .eof ∧
      ¬duplex.Delivers ([], dialWire auth writes) (auth.bytes ++ writes.flatten) .eof ∧
      duplex.Delivers ([], sendGRPCAuth id auth ++ writes.flatMap duplexWrite)
        (auth.bytes ++ writes.flatten) .eof := by
  have payloadSmall : auth.bytes.length ≤ maxFrameSize := by
    rw [auth.bytes_length]
    decide
  have frameSmall : (frameHeader 64 ++ auth.bytes).length ≤ maxFrameSize := by
    rw [length_append, auth.bytes_length]
    decide
  have doubled : duplex.Delivers ([], dialWire auth writes)
      (frameHeader 64 ++ auth.bytes ++ writes.flatten) .eof :=
    duplex_delivers (forall_mem_cons.mpr ⟨frameSmall, small⟩)
  refine ⟨doubled, fun exactly => ?_, ?_⟩
  · have same := congrArg List.length (doubled.unique exactly)
    rw [append_assoc, length_append] at same
    have five : (frameHeader 64).length = 5 := rfl
    omega
  · have plain := duplex_delivers (forall_mem_cons.mpr ⟨payloadSmall, small⟩)
    rw [flatMap_cons, ← auth_frame] at plain
    exact plain

def fixedAuth : AuthPayload (fun _ _ => List.replicate 32 9) (lit "secret") :=
  ⟨List.replicate 32 7, rfl, rfl⟩

theorem two_bytes_behind_header :
    duplex.Delivers ([], dialWire fixedAuth [[7, 8]])
      (frameHeader 64 ++ fixedAuth.bytes ++ [7, 8]) .eof :=
  (grpc_tunnel_repeats_header _ (lit "secret") fixedAuth [[7, 8]] (by decide)).1

/-- The first read of 64 bytes does not return the authentication payload. -/
theorem first_read_not_auth :
    (duplex.reads [64] ([], dialWire fixedAuth [])).1 ≠ fixedAuth.bytes := by
  decide +kernel

end Shuttle.CDN
