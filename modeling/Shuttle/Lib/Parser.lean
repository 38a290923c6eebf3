import Shuttle.Lib.Frames

/-!
# Parsers of bytes

A parser takes what it needs from the front of its input and leaves the rest. Arrays of a fixed
length are lists with their length, so that a parser of one yields a value of the right size. A
parser of a sequence of parts is stepped through part by part with `bind_ok`.
-/

namespace Shuttle.Lib

abbrev Bytes (count : Nat) := { bytes : List UInt8 // bytes.length = count }

/-- A parser: a value and the rest of the input, or an error. -/
abbrev Parser (ε α : Type) := StateT (List UInt8) (Except ε) α

namespace Parser

variable {ε δ α β : Type}

/-- Take an array from the input; a failure is wrapped. -/
def take (count : Nat) (wrap : Frames.FrameError → ε) : Parser ε (Bytes count) := fun input =>
  if enough : count ≤ input.length then
    .ok (⟨input.take count, List.length_take_of_le enough⟩, input.drop count)
  else .error (wrap (if input.length = 0 then .eof else .unexpectedEOF))

def adapt (wrap : δ → ε) (parser : Parser δ α) : Parser ε α := fun input =>
  match parser input with
  | .error cause => .error (wrap cause)
  | .ok result => .ok result

variable {parser : Parser ε α}

theorem bind_ok {next : α → Parser ε β} {input rest : List UInt8} {value : α}
    (first : parser input = .ok (value, rest)) : (parser >>= next) input = next value rest := by
  change (parser input >>= fun pair => next pair.1 pair.2) = next value rest
  rw [first]
  rfl

theorem take_append {count : Nat} {wrap : Frames.FrameError → ε} {front : List UInt8}
    (length : front.length = count) (rest : List UInt8) :
    take count wrap (front ++ rest) = .ok (⟨front, length⟩, rest) := by
  have enough : count ≤ (front ++ rest).length := by
    rw [List.length_append, length]
    exact Nat.le_add_right _ _
  have split : (front ++ rest).take count = front ∧ (front ++ rest).drop count = rest :=
    ⟨List.take_left' length, List.drop_left' length⟩
  unfold take
  rw [dif_pos enough]
  congr
  · exact split.1
  · exact split.2

theorem take_one {wrap : Frames.FrameError → ε} (byte : UInt8) (rest : List UInt8) :
    take 1 wrap (byte :: rest) = .ok (⟨[byte], rfl⟩, rest) :=
  @take_append ε 1 wrap [byte] rfl rest

theorem adapt_ok {wrap : δ → ε} {parser : Parser δ α} {input rest : List UInt8} {value : α}
    (parsed : parser input = .ok (value, rest)) :
    adapt wrap parser input = .ok (value, rest) := by
  rw [adapt, parsed]

theorem throw_ne_ok {error : ε} {input rest : List UInt8} {value : α} :
    (throw error : Parser ε α) input ≠ .ok (value, rest) := by
  intro parsed
  cases parsed

theorem adapt_inv {wrap : δ → ε} {parser : Parser δ α} {input rest : List UInt8} {value : α}
    (parsed : adapt wrap parser input = .ok (value, rest)) : parser input = .ok (value, rest) := by
  unfold adapt at parsed
  split at parsed
  · cases parsed
  · rename_i found
    cases parsed
    exact found

theorem bind_inv {next : α → Parser ε β} {input rest : List UInt8} {value : β}
    (parsed : (parser >>= next) input = .ok (value, rest)) :
    ∃ first between, parser input = .ok (first, between) ∧
      next first between = .ok (value, rest) := by
  change (parser input >>= fun pair => next pair.1 pair.2) = _ at parsed
  cases first : parser input with
  | error cause =>
    rw [first] at parsed
    cases parsed
  | ok pair =>
    rw [first] at parsed
    exact ⟨pair.1, pair.2, rfl, parsed⟩

/-- The bytes of a value are read back, whatever follows them, as a value that is the same. -/
def ReadsBack (parser : Parser ε α) (bytes : List UInt8) (same : α → Prop) : Prop :=
  ∀ payload, ∃ value, parser (bytes ++ payload) = .ok (value, payload) ∧ same value

theorem readsBack_iff {bytes : List UInt8} {same : α → Prop} {value : α}
    (parsed : ∀ payload, parser (bytes ++ payload) = .ok (value, payload)) :
    parser.ReadsBack bytes same ↔ same value := by
  constructor
  · intro back
    have ⟨other, found, holds⟩ := back []
    rw [parsed] at found
    cases found
    exact holds
  · intro holds payload
    exact ⟨value, parsed payload, holds⟩

theorem ReadsBack.elim {bytes : List UInt8} {same : α → Prop}
    (back : parser.ReadsBack bytes same) :
    ∃ input value rest, parser input = .ok (value, rest) ∧ same value :=
  have ⟨value, found, holds⟩ := back []
  ⟨_, value, _, found, holds⟩

end Parser

end Shuttle.Lib
