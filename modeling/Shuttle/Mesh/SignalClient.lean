import Shuttle.Mesh.Signal

/-!
# The receive loop of the signaling client

`Client.Run` reads a header, skips the message if its payload is announced as too large, and
otherwise reads the payload. It does not skip the payload of such a message, which is then read as
if messages started in it. Here the context is not cancelled; the channel of a pending answer, which
an acknowledgement is also sent to, has no part in the callbacks.
-/

namespace Shuttle.Mesh

open Shuttle.Go Shuttle.Lib.Frames List

inductive RunError where
  | readHeader (cause : FrameError)
  | readPayload (cause : FrameError)

/-- Whether the loop goes on, or what it returned. -/
inductive Returned where
  | running
  | returned (error : Option RunError)

section Receiving

variable {σ κ : Type} (read : Nat → σ → Except FrameError (List UInt8 × σ))
  (callbacks : UInt8 → List κ)

def started (message : Message) : List (κ × Message) :=
  (callbacks message.type).map (·, message)

/-- The rounds of `Client.Run` on a stream: the callbacks they start, and what is returned. -/
def run : Nat → σ → List (κ × Message) × Returned
  | 0, _ => ([], .running)
  | rounds + 1, stream =>
    match read headerSize stream with
    | .error .eof => ([], .returned none)
    | .error cause => ([], .returned (some (.readHeader cause)))
    | .ok (header, stream) =>
      let payloadLen := ofBe (header.drop 9)
      if maxSignalPayload < payloadLen then run rounds stream
      else
        match read payloadLen stream with
        | .error cause => ([], .returned (some (.readPayload cause)))
        | .ok (payload, stream) =>
          match Message.decode (header ++ payload) with
          | .error _ => run rounds stream
          | .ok message =>
            let later := run rounds stream
            (started callbacks message ++ later.1, later.2)

end Receiving

/-- `io.ReadFull` on the connection, whose reads return these pieces. -/
def readConn (count : Nat) (pieces : List (List UInt8)) :
    Except FrameError (List UInt8 × List (List UInt8)) := readPieces count [] pieces

/-- A message as it arrives. -/
def Message.received (message : Message) : Message :=
  { message with srcVIP := wireIP message.srcVIP, dstVIP := wireIP message.dstVIP }

abbrev Message.Fits (message : Message) : Prop := message.payload.length ≤ maxSignalPayload

section Streams

variable {κ : Type} (callbacks : UInt8 → List κ)

/-- The callbacks of the messages that are not too large, and a return without an error. -/
def expected (messages : List Message) : List (κ × Message) × Returned :=
  ((messages.filter (·.Fits)).flatMap fun message => started callbacks message.received,
    .returned none)

end Streams

variable {κ : Type} {callbacks : UInt8 → List κ}

/-- How a stream is cut into pieces does not matter. -/
theorem run_pieces (rounds : Nat) (pieces : List (List UInt8)) :
    run readConn callbacks rounds pieces = run readFull callbacks rounds pieces.flatten := by
  induction rounds generalizing pieces with
  | zero => rfl
  | succ rounds ih =>
    have flat (count : Nat) (pieces : List (List UInt8)) : readFull count pieces.flatten =
        (readConn count pieces).map fun pair => (pair.1, pair.2.flatten) := by
      simpa [readConn] using readPieces_flatten pieces count []
    rw [run, run, flat]
    cases readConn headerSize pieces with
    | error cause => cases cause <;> rfl
    | ok header =>
      simp only [Except.map, flat, ih]
      cases readConn (ofBe (header.1.drop 9)) header.2 <;> rfl

/-- A message that is not too large is read whole. -/
theorem run_message {message : Message} (fits : message.Fits) (rounds : Nat) (rest : List UInt8) :
    run readFull callbacks (rounds + 1) (message.encode ++ rest) =
      let later := run readFull callbacks rounds rest
      (started callbacks message.received ++ later.1, later.2) := by
  obtain ⟨type, srcVIP, dstVIP, payload⟩ := message
  have src := wireIP_length srcVIP
  have dst := wireIP_length dstVIP
  have short : payload.length < 2 ^ 16 := Nat.lt_of_le_of_lt fits (by decide)
  have sent : ofBe (beBytes 2 (payload.length % 2 ^ 16)) = payload.length := by
    rw [Nat.mod_eq_of_lt short, ofBe_beBytes_of_lt short]
  have decoded := decode_parts type payload src dst (beBytes_length 2 (payload.length % 2 ^ 16))
  rw [sent] at decoded
  have header := readFull_append (type :: (wireIP srcVIP ++ wireIP dstVIP ++
    beBytes 2 (payload.length % 2 ^ 16))) (payload ++ rest)
  have size : (wireIP srcVIP ++ wireIP dstVIP).length = 8 := by
    rw [length_append, src, dst]
  rw [length_cons, length_append, size, beBytes_length] at header
  have announced : ofBe ((type :: (wireIP srcVIP ++ wireIP dstVIP ++
      beBytes 2 (payload.length % 2 ^ 16))).drop 9) = payload.length := by
    rw [drop_succ_cons, drop_left' size, sent]
  have whole : Message.encode ⟨type, srcVIP, dstVIP, payload⟩ ++ rest = type :: (wireIP srcVIP ++
      wireIP dstVIP ++ beBytes 2 (payload.length % 2 ^ 16)) ++ (payload ++ rest) := by
    simp [Message.encode, wireIP]
  have small : ¬maxSignalPayload < payload.length := Nat.not_lt.mpr fits
  rw [run, whole, show headerSize = 8 + 2 + 1 from rfl, header]
  simp only [announced, if_neg small, readFull_append]
  rw [cons_append, decoded, if_neg small, if_neg (Nat.lt_irrefl _), take_length]
  rfl

/-- Whatever the pieces, the callbacks of the messages in front of the first that is too large are
started first and in order. If no message is too large, the callbacks of all messages are started
and no others, and nil is returned. -/
theorem run_starts_expected {rounds : Nat} {messages : List Message} {pieces : List (List UInt8)}
    (written : pieces.flatten = messages.flatMap Message.encode)
    (enough : messages.length < rounds) :
    (expected callbacks (messages.takeWhile (·.Fits))).1 <+:
        (run readConn callbacks rounds pieces).1 ∧
      ((∀ message ∈ messages, message.Fits) →
        run readConn callbacks rounds pieces = expected callbacks messages) := by
  rw [run_pieces, written]
  clear written
  induction messages generalizing rounds with
  | nil =>
    obtain ⟨rounds, rfl⟩ := Nat.exists_eq_add_one.mpr enough
    simp [run, expected, readFull, headerSize]
  | cons message messages ih =>
    obtain ⟨rounds, rfl⟩ := Nat.exists_eq_add_one.mpr (Nat.zero_lt_of_lt enough)
    by_cases fits : message.Fits
    · obtain ⟨started, all⟩ := ih (Nat.lt_of_succ_lt_succ enough)
      rw [flatMap_cons, run_message fits, takeWhile_cons, if_pos (decide_eq_true fits)]
      simp only [expected, filter_cons, fits, decide_true, if_true, flatMap_cons] at started all ⊢
      refine ⟨(prefix_append_right_inj _).mpr started, fun every => ?_⟩
      rw [all (forall_mem_cons.mp every).2]
    · rw [takeWhile_cons, if_neg (mt of_decide_eq_true fits)]
      exact ⟨ nil_prefix, fun every => absurd (every message mem_cons_self) fits⟩

theorem cut_message_received :
    run readConn (fun _ => [()]) 2 [[3, 10, 0, 0, 1, 10], [0, 0, 2, 0, 1, 7]] =
      expected (fun _ => [()]) [⟨3, [10, 0, 0, 1], [10, 0, 0, 2], [7]⟩] :=
  (run_starts_expected (by decide) (by decide)).2 (by decide)

/-- A message of 4097 bytes in front of one that is not heard any more. -/
theorem oversized_message_hides_next :
    let large : Message := ⟨1, [10, 0, 0, 1], [10, 0, 0, 2], replicate 4097 15⟩
    let small : Message := ⟨2, [10, 0, 0, 1], [10, 0, 0, 2], []⟩
    (run readConn (fun type => if type = 2 then [()] else []) 10
      [large.encode ++ small.encode]).1 = [] ∧
    (expected (fun type => if type = 2 then [()] else []) [large, small]).1 ≠ [] := by
  decide +kernel

end Shuttle.Mesh
