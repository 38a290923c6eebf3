import Mathlib.Algebra.BigOperators.Group.List.Basic
import Shuttle.Go.Words

/-!
# Length-prefixed frames on a shared stream

A frame is a big-endian length of a fixed width and the payload. A reader takes one frame
after the other and stops at the first error. What it returned accounts for as many bytes as
the frames occupy, so a stream that is shorter than the frames of a list of payloads cannot
yield the list. Writers that share a stream interleave their writes.
-/

namespace Shuttle.Lib.Frames

open Shuttle.Go List

inductive FrameError where
  /-- The stream ended between frames, or before a payload. -/
  | eof
  /-- The stream ended inside a header or a payload. -/
  | unexpectedEOF
  | refused
deriving DecidableEq, Repr

/-- Read exactly this many bytes, as `io.ReadFull`. -/
def readFull (count : Nat) (bytes : List UInt8) : Except FrameError (List UInt8 × List UInt8) :=
  if count ≤ bytes.length then .ok (bytes.take count, bytes.drop count)
  else if bytes.length = 0 then .error .eof
  else .error .unexpectedEOF

def encode (width : Nat) (payload : List UInt8) : List UInt8 :=
  beBytes width payload.length ++ payload

/-- Read one frame: its length, which has to be an accepted one, and its payload. -/
def decodeOne (width : Nat) (accepts : Nat → Bool) (bytes : List UInt8) :
    Except FrameError (List UInt8 × List UInt8) :=
  match readFull width bytes with
  | .error error => .error error
  | .ok (header, rest) =>
    if accepts (ofBe header) then readFull (ofBe header) rest else .error .refused

/-- Read frames until an error; the first argument bounds their number. -/
def decodeAll (width : Nat) (accepts : Nat → Bool) : Nat → List UInt8 → List (List UInt8)
  | 0, _ => []
  | fuel + 1, bytes =>
    match decodeOne width accepts bytes with
    | .error _ => []
    | .ok (payload, rest) => payload :: decodeAll width accepts fuel rest

theorem readFull_append (front rest : List UInt8) :
    readFull front.length (front ++ rest) = .ok (front, rest) := by
  have enough : front.length ≤ (front ++ rest).length := by
    rw [length_append]
    exact Nat.le_add_right _ _
  unfold readFull
  rw [if_pos enough, take_left, drop_left]

variable {rest : List UInt8} {width : Nat} {accepts : Nat → Bool}

theorem readFull_ok {count : Nat} {bytes front : List UInt8}
    (read : readFull count bytes = .ok (front, rest)) :
    front.length = count ∧ bytes = front ++ rest := by
  unfold readFull at read
  split at read
  · rename_i enough
    have same := Prod.mk.inj (Except.ok.inj read)
    rw [← same.1, ← same.2, take_append_drop]
    exact ⟨length_take_of_le enough, rfl⟩
  · split at read <;> contradiction

/-- The loop of `io.ReadFull` on a stream that hands out its bytes in these pieces. -/
def readPieces : Nat → List UInt8 → List (List UInt8) →
    Except FrameError (List UInt8 × List (List UInt8))
  | 0, buffered, pieces => .ok (buffered, pieces)
  | _ + 1, buffered, [] => if buffered = [] then .error .eof else .error .unexpectedEOF
  | wanted + 1, buffered, piece :: pieces =>
    if wanted + 1 < piece.length then
      .ok (buffered ++ piece.take (wanted + 1), piece.drop (wanted + 1) :: pieces)
    else readPieces (wanted + 1 - piece.length) (buffered ++ piece) pieces

theorem readPieces_flatten (pieces : List (List UInt8)) (wanted : Nat) (buffered : List UInt8) :
    readFull (buffered.length + wanted) (buffered ++ pieces.flatten) =
      (readPieces wanted buffered pieces).map fun pair => (pair.1, pair.2.flatten) := by
  induction pieces generalizing wanted buffered with
  | nil =>
    rw [flatten_nil, append_nil]
    cases wanted with
    | zero =>
      have whole := readFull_append buffered []
      rw [append_nil] at whole
      exact whole
    | succ wanted =>
      have short : ¬buffered.length + (wanted + 1) ≤ buffered.length := by omega
      rw [readFull, if_neg short, readPieces]
      by_cases empty : buffered = []
      · rw [if_pos (length_eq_zero_iff.mpr empty), if_pos empty]
        rfl
      · rw [if_neg (fun zero => empty (length_eq_zero_iff.mp zero)), if_neg empty]
        rfl
  | cons piece pieces ih =>
    cases wanted with
    | zero => exact readFull_append buffered (piece :: pieces).flatten
    | succ wanted =>
      rw [readPieces, flatten_cons]
      by_cases inside : wanted + 1 < piece.length
      · have split : buffered ++ (piece ++ pieces.flatten) =
            buffered ++ piece.take (wanted + 1) ++ (piece.drop (wanted + 1) ++ pieces.flatten) := by
          rw [append_assoc, ← append_assoc (piece.take _), take_append_drop]
        have length : (buffered ++ piece.take (wanted + 1)).length =
            buffered.length + (wanted + 1) := by
          rw [length_append, length_take_of_le (Nat.le_of_lt inside)]
        rw [if_pos inside, split, ← length, readFull_append]
        rfl
      · have count : buffered.length + (wanted + 1) =
            (buffered ++ piece).length + (wanted + 1 - piece.length) := by
          rw [length_append]
          omega
        rw [if_neg inside, ← append_assoc, count]
        exact ih _ _

theorem readPieces_append {front : List UInt8} {pieces : List (List UInt8)}
    (split : pieces.flatten = front ++ rest) :
    ∃ others, readPieces front.length [] pieces = .ok (front, others) ∧ others.flatten = rest := by
  have flat := readPieces_flatten pieces front.length []
  rw [length_nil, Nat.zero_add, nil_append, split, readFull_append] at flat
  cases read : readPieces front.length [] pieces with
  | error cause =>
    rw [read] at flat
    cases flat
  | ok pair =>
    rw [read] at flat
    have same := Prod.mk.inj (Except.ok.inj flat)
    exact ⟨pair.2, by rw [same.1], same.2.symm⟩

theorem readPieces_eof {count : Nat} (positive : 0 < count) {pieces : List (List UInt8)}
    (empty : pieces.flatten = []) : readPieces count [] pieces = .error .eof := by
  have flat := readPieces_flatten pieces count []
  have short : ¬count ≤ ([] : List UInt8).length := Nat.not_le.mpr positive
  rw [length_nil, Nat.zero_add, nil_append, empty, readFull, if_neg short] at flat
  cases read : readPieces count [] pieces with
  | error cause =>
    rw [read] at flat
    rw [Except.error.inj flat]
  | ok pair =>
    rw [read] at flat
    cases flat

theorem decodeOne_announced {length : Nat} (accepts : Nat → Bool) {body : List UInt8}
    (fits : length < 256 ^ width) (enough : length ≤ body.length) :
    decodeOne width accepts (beBytes width length ++ body) =
      if accepts length then .ok (body.take length, body.drop length) else .error .refused := by
  have header := readFull_append (beBytes width length) body
  rw [beBytes_length] at header
  unfold decodeOne
  rw [header]
  dsimp only
  rw [ofBe_beBytes_of_lt fits, readFull, if_pos enough]

theorem decodeOne_encode {payload : List UInt8}
    (fits : payload.length < 256 ^ width) (accepted : accepts payload.length = true)
    (rest : List UInt8) :
    decodeOne width accepts (encode width payload ++ rest) = .ok (payload, rest) := by
  have enough : payload.length ≤ (payload ++ rest).length := by
    rw [length_append]
    exact Nat.le_add_right _ _
  rw [encode, append_assoc, decodeOne_announced accepts fits enough, if_pos accepted,
    take_left, drop_left]

theorem decodeOne_ok {bytes payload : List UInt8}
    (read : decodeOne width accepts bytes = .ok (payload, rest)) :
    accepts payload.length = true ∧ bytes.length = width + payload.length + rest.length := by
  unfold decodeOne at read
  cases first : readFull width bytes with
  | error error =>
    rw [first] at read
    contradiction
  | ok pair =>
    have ⟨headerLength, split⟩ := readFull_ok first
    rw [first] at read
    dsimp only at read
    split at read
    · rename_i accepted
      have ⟨payloadLength, tail⟩ := readFull_ok read
      rw [payloadLength]
      refine ⟨accepted, ?_⟩
      rw [split, tail, length_append, length_append, headerLength, payloadLength, Nat.add_assoc]
    · contradiction

theorem decodeAll_encode (payloads : List (List UInt8)) :
    ∀ (fuel : Nat), (∀ payload ∈ payloads, payload.length < 256 ^ width ∧
      accepts payload.length = true) → payloads.length ≤ fuel → 0 < width →
      decodeAll width accepts fuel (payloads.flatMap (encode width)) = payloads := by
  induction payloads with
  | nil =>
    intro fuel _ _ positive
    cases fuel with
    | zero => rfl
    | succ fuel =>
      have short : ¬width ≤ ([] : List UInt8).length := by
        rw [length_nil]
        omega
      unfold decodeAll decodeOne readFull
      rw [flatMap_nil, if_neg short, if_pos length_nil]
  | cons payload payloads ih =>
    intro fuel sound enough positive
    have ⟨fits, accepted⟩ := sound payload mem_cons_self
    rw [length_cons] at enough
    have ⟨less, more⟩ : ∃ less, fuel = less + 1 := ⟨fuel - 1, by omega⟩
    subst more
    unfold decodeAll
    rw [flatMap_cons, decodeOne_encode fits accepted]
    have rest := ih less (fun other member => sound other (mem_cons_of_mem _ member))
      (by omega) positive
    dsimp only
    rw [rest]

theorem length_le_frames (positive : 0 < width) (payloads : List (List UInt8)) :
    payloads.length ≤ (payloads.flatMap (encode width)).length := by
  induction payloads with
  | nil => exact Nat.zero_le _
  | cons payload payloads ih =>
    have header : (encode width payload).length = width + payload.length := by
      unfold encode
      rw [length_append, beBytes_length]
    rw [flatMap_cons, length_append, length_cons]
    omega

theorem decodeAll_occupies (width : Nat) (accepts : Nat → Bool) (fuel : Nat) (bytes) :
    (∀ payload ∈ decodeAll width accepts fuel bytes, accepts payload.length = true) ∧
      ((decodeAll width accepts fuel bytes).map fun payload => width + payload.length).sum ≤
      bytes.length := by
  induction fuel generalizing bytes with
  | zero =>
    exact ⟨nofun, Nat.zero_le _⟩
  | succ fuel ih =>
    unfold decodeAll
    cases read : decodeOne width accepts bytes with
    | error error =>
      exact ⟨nofun, Nat.zero_le _⟩
    | ok pair =>
      have ⟨accepted, occupied⟩ := decodeOne_ok read
      have ⟨others, bound⟩ := ih pair.2
      refine ⟨fun payload member => ?_, ?_⟩
      · rcases mem_cons.mp member with same | later
        · rw [same]
          exact accepted
        · exact others payload later
      · rw [map_cons, sum_cons]
        omega

/-! ## Writers on one stream -/

/-- The writes of two writers in some order that keeps each writer's own. -/
inductive Merges {α : Type} : List α → List α → List α → Prop
  | nil : Merges [] [] []
  | left {a : α} {left right merged : List α} :
      Merges left right merged → Merges (a :: left) right (a :: merged)
  | right {b : α} {left right merged : List α} :
      Merges left right merged → Merges left (b :: right) (b :: merged)

theorem Merges.sum_map {α : Type} {left right merged : List α} (merges : Merges left right merged)
    (weight : α → Nat) :
    (merged.map weight).sum = (left.map weight).sum + (right.map weight).sum := by
  induction merges with
  | nil => rfl
  | left _ ih =>
    rw [map_cons, sum_cons, map_cons, sum_cons, ih, Nat.add_assoc]
  | right _ ih =>
    rw [map_cons, sum_cons, map_cons, sum_cons, ih, Nat.add_left_comm]

theorem Merges.eq_left {α : Type} {left merged : List α} (merges : Merges left [] merged) :
    merged = left := by
  generalize none : ([] : List α) = right at merges
  induction merges with
  | nil => rfl
  | left _ ih => rw [ih none]
  | right _ _ => contradiction

end Shuttle.Lib.Frames
