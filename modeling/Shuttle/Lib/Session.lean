import Shuttle.Lib.Frames

/-!
# Sessions on a byte stream

A session reads exact amounts of a peer's bytes and writes answers; an operation that fails ends
it with an error, and the connection is kept as it was left. The inversion rules say what a
successful session has read; the forward rules run a session on a stream that starts with what
it reads.
-/

namespace Shuttle.Lib

/-- A connection as a session sees it. -/
structure Conn where
  /-- Bytes the peer sends that are not read yet; reads fail behind the last of them. -/
  input : List UInt8
  output : List (List UInt8)
  fails : Nat → Bool
  deadline : Bool

/-- A computation that reads and writes a connection. -/
abbrev Session (ε : Type) := EStateM ε Conn

namespace Session

variable {ε α β : Type}

/-- Read exactly this many bytes, as `io.ReadFull`. -/
def receive (count : Nat) (failure : ε) : Session ε (List UInt8) := fun conn =>
  match Frames.readFull count conn.input with
  | .ok (front, rest) => .ok front { conn with input := rest }
  | .error _ => .error failure conn

def send (bytes : List UInt8) (failure : ε) : Session ε Unit := fun conn =>
  let written := { conn with output := conn.output ++ [bytes] }
  if conn.fails conn.output.length then .error failure written else .ok () written

def post (bytes : List UInt8) : Session ε Unit := fun conn =>
  .ok () { conn with output := conn.output ++ [bytes] }

def onError (body : Session ε α) (cleanup : Session ε Unit) : Session ε α := fun conn =>
  match body.run conn with
  | .ok value last => .ok value last
  | .error failure last =>
    match cleanup.run last with
    | .ok _ final => .error failure final
    | .error _ final => .error failure final

def wrapError (body : Session ε α) (wrap : ε → ε) : Session ε α := fun conn =>
  match body.run conn with
  | .ok value last => .ok value last
  | .error failure last => .error (wrap failure) last

variable {conn last : Conn} {body : Session ε α} {failure : ε}

theorem bind_ok {next : α → Session ε β} {value : β} :
    (body >>= next).run conn = .ok value last ↔
      ∃ result middle, body.run conn = .ok result middle ∧
        (next result).run middle = .ok value last := by
  change EStateM.bind body next conn = _ ↔ ∃ result middle, body conn = _ ∧ next result middle = _
  rw [EStateM.bind]
  cases ran : body conn with
  | ok result middle =>
    constructor
    · intro rest
      exact ⟨result, middle, rfl, rest⟩
    · rintro ⟨_, _, same, rest⟩
      cases same
      exact rest
  | error failure middle =>
    constructor
    · intro impossible
      cases impossible
    · rintro ⟨_, _, impossible, _⟩
      cases impossible

theorem bind_of_ok {result : α} {middle : Conn}
    (ran : body.run conn = .ok result middle) (next : α → Session ε β) :
    (body >>= next).run conn = (next result).run middle := by
  change EStateM.bind body next conn = next result middle
  change body conn = _ at ran
  rw [EStateM.bind, ran]

theorem throw_ne_ok {value : α} :
    (throw failure : Session ε α).run conn ≠ .ok value last := nofun

theorem receive_ok {count : Nat} {front : List UInt8}
    (read : (receive count failure).run conn = .ok front last) :
    front.length = count ∧ conn.input = front ++ last.input := by
  change receive count failure conn = _ at read
  rw [receive] at read
  cases split : Frames.readFull count conn.input with
  | error _ =>
    rw [split] at read
    cases read
  | ok pair =>
    have ⟨length, whole⟩ := Frames.readFull_ok split
    rw [split] at read
    cases read
    exact ⟨length, whole⟩

theorem receive_append {count : Nat} (failure : ε) {front rest : List UInt8}
    (length : front.length = count) (starts : conn.input = front ++ rest) :
    (receive count failure).run conn = .ok front { conn with input := rest } := by
  change receive count failure conn = _
  rw [receive, starts, ← length, Frames.readFull_append]

theorem send_ok {bytes : List UInt8} {done : Unit}
    (wrote : (send bytes failure).run conn = .ok done last) : last.input = conn.input := by
  change send bytes failure conn = _ at wrote
  rw [send] at wrote
  split at wrote <;> cases wrote
  rfl

theorem onError_of_ok {value : α} (ran : body.run conn = .ok value last)
    (cleanup : Session ε Unit) : (onError body cleanup).run conn = .ok value last := by
  change onError body cleanup conn = _
  rw [onError, ran]

end Session

end Shuttle.Lib
