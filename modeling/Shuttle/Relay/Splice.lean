import Shuttle.Lib.Machine

/-!
# Splicing relays that share a pool of pipes

`spliceOne` moves bytes from a source into a pipe and from the pipe to a destination; both
directions of a relay do so at once, and all relays take their pipes from one pool and put them
back. Each call of `unix.Splice` moves a front part of what is there or fails and is one step. The
pool may hand out any pipe it holds or a new one.
-/

namespace Shuttle.Relay

open Shuttle.Lib List Option

def spliceMaxSize : Nat := 65536

/-! ## One direction -/

structure Direction where
  consumed : List UInt8
  delivered : List UInt8
  pipe : List UInt8
  /-- Bytes of the current chunk that are still to be drained. -/
  remain : Nat
  total : Nat
  /-- Whether it has returned, and then whether with an error. -/
  returned : Option Bool

inductive Move where
  | load (bytes : List UInt8)
  | again
  | loadError
  | eof
  /-- This many bytes leave the pipe for the destination. -/
  | drain (count : Nat)
  | drainError

namespace Direction

def start (pipe : List UInt8) : Direction := ⟨[], [], pipe, 0, 0, none⟩

/-- The direction after one call. A chunk is drained before the source is read again, and an error
while draining returns at once. -/
def splice (direction : Direction) (move : Move) : Option Direction :=
  if direction.returned.isSome then none
  else
    match move with
    | .load bytes =>
      if direction.remain = 0 ∧ bytes ≠ [] ∧ bytes.length ≤ spliceMaxSize then
        some { direction with
          consumed := direction.consumed ++ bytes
          pipe := direction.pipe ++ bytes
          remain := bytes.length }
      else none
    | .again => if direction.remain = 0 then some direction else none
    | .loadError =>
      if direction.remain = 0 then some { direction with returned := some true } else none
    | .eof => if direction.remain = 0 then some { direction with returned := some false } else none
    | .drain count =>
      if 0 < direction.remain ∧ count ≤ direction.remain ∧ count ≤ direction.pipe.length then
        some { direction with
          delivered := direction.delivered ++ direction.pipe.take count
          pipe := direction.pipe.drop count
          remain := direction.remain - count
          total := direction.total + count }
      else none
    | .drainError =>
      if 0 < direction.remain then some { direction with returned := some true } else none

structure Sound (direction : Direction) : Prop where
  split : direction.consumed = direction.delivered ++ direction.pipe
  counts : direction.total = direction.delivered.length

theorem sound_start : (start []).Sound := ⟨rfl, rfl⟩

theorem Sound.splice {direction next : Direction} {move : Move} (sound : direction.Sound)
    (moved : direction.splice move = some next) : next.Sound := by
  have ⟨split, counts⟩ := sound
  unfold Direction.splice at moved
  rw [ite_none_left_eq_some] at moved
  have ⟨_, moved⟩ := moved
  cases move with
  | load bytes =>
    rw [ite_none_right_eq_some] at moved
    cases moved.2
    exact ⟨by rw [split, append_assoc], counts⟩
  | again =>
    rw [ite_none_right_eq_some] at moved
    cases moved.2
    exact sound
  | loadError | eof | drainError =>
    rw [ite_none_right_eq_some] at moved
    cases moved.2
    exact ⟨split, counts⟩
  | drain count =>
    rw [ite_none_right_eq_some] at moved
    have ⟨⟨_, _, within⟩, moved⟩ := moved
    cases moved
    constructor
    · rw [append_assoc, take_append_drop, split]
    · rw [length_append, length_take, Nat.min_eq_left within, counts]

end Direction

/-! ## Relays -/

inductive RelayCall where
  | checked
  | tested
  | running (aToB bToA : Direction)
  /-- It has returned the transferred bytes and whether the relay was handled. -/
  | finished (aToB bToA : Direction) (sent received : Nat) (ok : Bool)

structure Process where
  pool : List (List UInt8)
  relays : List RelayCall

/-- One step of a call, which is named by its position. A pipe is picked from the pool by its
position, or made when there is none. -/
inductive SpliceEvent where
  /-- A call begins; it returns at once unless both ends are plain sockets. -/
  | trySplice (eligible : Bool)
  /-- The test splice of no bytes, and whether it passes. -/
  | test (relay : Nat) (pipe : Option Nat) (supported : Bool)
  | noPipe (relay : Nat)
  /-- The first pipe is taken, the second cannot be made. -/
  | noSecondPipe (relay : Nat) (pipe : Option Nat)
  | take (relay : Nat) (first second : Option Nat)
  /-- One call of `unix.Splice` from the first end to the second. -/
  | sendMove (relay : Nat) (move : Move)
  /-- One call of `unix.Splice` from the second end to the first. -/
  | receiveMove (relay : Nat) (move : Move)
  /-- Both directions have returned; the pipes go back to the pool. -/
  | finish (relay : Nat)

/-- Take a pipe: its content and the pool without it. -/
def getSplicePair (pool : List (List UInt8)) : Option Nat → Option (List UInt8 × List (List UInt8))
  | none => some ([], pool)
  | some position => (pool[position]?).map fun content => (content, pool.eraseIdx position)

def putSplicePair (pool : List (List UInt8)) (content : List UInt8) : List (List UInt8) :=
  pool ++ [content]

def RelayCall.declined : RelayCall := .finished (.start []) (.start []) 0 0 false

/-- A relay is not handled if one direction failed and neither transferred a byte. -/
def RelayCall.result (aToB bToA : Direction) (sendFailed receiveFailed : Bool) : RelayCall :=
  .finished aToB bToA aToB.total bToA.total
    (!((sendFailed || receiveFailed) && aToB.total == 0 && bToA.total == 0))

namespace Process

def setRelay (process : Process) (position : Nat) (relay : RelayCall) : Process :=
  { process with relays := process.relays.set position relay }

def step (process : Process) : SpliceEvent → Option Process
  | .trySplice eligible =>
    some { process with
      relays := process.relays ++ [if eligible then .checked else .declined] }
  | .test position pipe supported =>
    match process.relays[position]?, getSplicePair process.pool pipe with
    | some .checked, some (content, rest) =>
      some { (process.setRelay position (if supported then .tested else .declined)) with
        pool := putSplicePair rest content }
    | _, _ => none
  | .noPipe position =>
    match process.relays[position]? with
    | some .checked => some (process.setRelay position .declined)
    | some .tested => some (process.setRelay position .declined)
    | _ => none
  | .noSecondPipe position pipe =>
    match process.relays[position]?, getSplicePair process.pool pipe with
    | some .tested, some (content, rest) =>
      some { (process.setRelay position .declined) with pool := putSplicePair rest content }
    | _, _ => none
  | .take position first second =>
    match process.relays[position]?, getSplicePair process.pool first with
    | some .tested, some (pipe1, rest) =>
      match getSplicePair rest second with
      | some (pipe2, remaining) =>
        some { (process.setRelay position (.running (.start pipe1) (.start pipe2))) with
          pool := remaining }
      | none => none
    | _, _ => none
  | .sendMove position move =>
    match process.relays[position]? with
    | some (.running aToB bToA) =>
      (aToB.splice move).map fun next => process.setRelay position (.running next bToA)
    | _ => none
  | .receiveMove position move =>
    match process.relays[position]? with
    | some (.running aToB bToA) =>
      (bToA.splice move).map fun next => process.setRelay position (.running aToB next)
    | _ => none
  | .finish position =>
    match process.relays[position]? with
    | some (.running aToB bToA) =>
      match aToB.returned, bToA.returned with
      | some sendFailed, some receiveFailed =>
        some { (process.setRelay position (.result aToB bToA sendFailed receiveFailed)) with
          pool := putSplicePair (putSplicePair process.pool bToA.pipe) aToB.pipe }
      | _, _ => none
    | _ => none

def machine : Machine Process SpliceEvent := ⟨step⟩

def idle : Process := ⟨[], []⟩

end Process

/-- Each destination has a front part of what was read from its own source, and a relay that was not
handled has read nothing. -/
def RelayCall.Isolated : RelayCall → Prop
  | .checked => True
  | .tested => True
  | .running aToB bToA => aToB.delivered <+: aToB.consumed ∧ bToA.delivered <+: bToA.consumed
  | .finished aToB bToA _ _ ok =>
    aToB.delivered <+: aToB.consumed ∧ bToA.delivered <+: bToA.consumed ∧
      (ok = false → aToB.consumed = [] ∧ bToA.consumed = [])

def Process.Isolated (process : Process) : Prop := ∀ relay ∈ process.relays, relay.Isolated

def Process.DirtyPut (process : Process) (event : SpliceEvent) : Prop :=
  ∃ position aToB bToA, event = .finish position ∧
    process.relays[position]? = some (.running aToB bToA) ∧ ¬(aToB.pipe = [] ∧ bToA.pipe = [])

/-! ## Runs that put back empty pipes -/

def Drained (pool : List (List UInt8)) : Prop := ∀ content ∈ pool, content = []

theorem Drained.put {pool : List (List UInt8)} {content : List UInt8} (drained : Drained pool)
    (empty : content = []) : Drained (putSplicePair pool content) :=
  forall_mem_append.mpr ⟨drained, forall_mem_singleton.mpr empty⟩

theorem Drained.get {pool rest : List (List UInt8)} {pipe : Option Nat} {content : List UInt8}
    (drained : Drained pool) (taken : getSplicePair pool pipe = some (content, rest)) :
    content = [] ∧ Drained rest := by
  cases pipe with
  | none =>
    cases taken
    exact ⟨rfl, drained⟩
  | some position =>
    have ⟨found, pooled, same⟩ := map_eq_some_iff.mp taken
    cases same
    refine ⟨drained _ (mem_of_getElem? pooled), fun other member => ?_⟩
    exact drained other (mem_of_mem_eraseIdx member)

/-- The directions of a relay that runs are sound, one that has returned is isolated. -/
def RelayCall.Clean : RelayCall → Prop
  | .checked => True
  | .tested => True
  | .running aToB bToA => aToB.Sound ∧ bToA.Sound
  | .finished aToB bToA sent received ok =>
    (RelayCall.finished aToB bToA sent received ok).Isolated

theorem RelayCall.declined_clean : RelayCall.declined.Clean :=
  ⟨prefix_rfl, prefix_rfl, fun _ => ⟨rfl, rfl⟩⟩

theorem Direction.Sound.delivers {direction : Direction} (sound : direction.Sound) :
    direction.delivered <+: direction.consumed := by
  rw [sound.split]
  exact prefix_append _ _

theorem RelayCall.Clean.isolated {relay : RelayCall} (clean : relay.Clean) : relay.Isolated := by
  cases relay with
  | checked | tested => trivial
  | running aToB bToA => exact ⟨clean.1.delivers, clean.2.delivers⟩
  | finished aToB bToA sent received ok => exact clean

theorem RelayCall.result_clean {aToB bToA : Direction} (sendSound : aToB.Sound)
    (receiveSound : bToA.Sound) (sendEmpty : aToB.pipe = []) (receiveEmpty : bToA.pipe = [])
    (sendFailed receiveFailed : Bool) :
    (RelayCall.result aToB bToA sendFailed receiveFailed).Clean := by
  refine ⟨sendSound.delivers, receiveSound.delivers, fun refused => ?_⟩
  have nothing (direction : Direction) (sound : direction.Sound) (empty : direction.pipe = [])
      (zero : direction.total = 0) : direction.consumed = [] := by
    rw [sound.split, empty, append_nil]
    exact eq_nil_of_length_eq_zero (sound.counts ▸ zero)
  simp only [Bool.not_eq_false', Bool.and_eq_true, beq_iff_eq] at refused
  exact ⟨nothing aToB sendSound sendEmpty refused.1.2,
    nothing bToA receiveSound receiveEmpty refused.2⟩

namespace Process

structure Clean (process : Process) : Prop where
  pool : Drained process.pool
  relays : ∀ relay ∈ process.relays, relay.Clean

theorem Clean.set {process : Process} (clean : process.Clean) {pool : List (List UInt8)}
    (drained : Drained pool) (position : Nat) {relay : RelayCall} (sound : relay.Clean) :
    Clean { process.setRelay position relay with pool } := by
  refine ⟨drained, fun other member => ?_⟩
  rcases mem_or_eq_of_mem_set member with kept | replaced
  · exact clean.relays other kept
  · rw [replaced]
    exact sound

theorem Clean.step {process next : Process} {event : SpliceEvent} (clean : process.Clean)
    (stepped : process.step event = some next) (tidy : ¬process.DirtyPut event) : next.Clean := by
  cases event with
  | trySplice eligible =>
    cases stepped
    refine ⟨clean.pool, forall_mem_append.mpr ⟨clean.relays, forall_mem_singleton.mpr ?_⟩⟩
    cases eligible with
    | true => trivial
    | false => exact RelayCall.declined_clean
  | test position pipe supported =>
    rw [Process.step] at stepped
    split at stepped
    · rename_i taken
      cases stepped
      have ⟨empty, drained⟩ := clean.pool.get taken
      apply clean.set (drained.put empty)
      cases supported with
      | true => trivial
      | false => exact RelayCall.declined_clean
    · cases stepped
  | noPipe position =>
    rw [Process.step] at stepped
    split at stepped
    all_goals cases stepped
    all_goals exact clean.set clean.pool position RelayCall.declined_clean
  | noSecondPipe position pipe =>
    rw [Process.step] at stepped
    split at stepped
    · rename_i taken
      cases stepped
      have ⟨empty, drained⟩ := clean.pool.get taken
      exact clean.set (drained.put empty) position RelayCall.declined_clean
    · cases stepped
  | take position first second =>
    rw [Process.step] at stepped
    split at stepped
    · rename_i taken
      have ⟨firstEmpty, drained⟩ := clean.pool.get taken
      split at stepped
      · rename_i takenToo
        cases stepped
        have ⟨secondEmpty, remaining⟩ := drained.get takenToo
        rw [firstEmpty, secondEmpty]
        exact clean.set remaining position ⟨Direction.sound_start, Direction.sound_start⟩
      · cases stepped
    · cases stepped
  | sendMove position move =>
    rw [Process.step] at stepped
    split at stepped
    · rename_i aToB bToA found
      have ⟨sendSound, receiveSound⟩ := clean.relays _ (mem_of_getElem? found)
      have ⟨moved, spliced, same⟩ := map_eq_some_iff.mp stepped
      cases same
      exact clean.set clean.pool position ⟨sendSound.splice spliced, receiveSound⟩
    · cases stepped
  | receiveMove position move =>
    rw [Process.step] at stepped
    split at stepped
    · rename_i aToB bToA found
      have ⟨sendSound, receiveSound⟩ := clean.relays _ (mem_of_getElem? found)
      have ⟨moved, spliced, same⟩ := map_eq_some_iff.mp stepped
      cases same
      exact clean.set clean.pool position ⟨sendSound, receiveSound.splice spliced⟩
    · cases stepped
  | finish position =>
    rw [Process.step] at stepped
    split at stepped
    · rename_i aToB bToA found
      have ⟨sendSound, receiveSound⟩ := clean.relays _ (mem_of_getElem? found)
      have ⟨sendEmpty, receiveEmpty⟩ : aToB.pipe = [] ∧ bToA.pipe = [] := by
        by_contra dirty
        exact tidy ⟨position, aToB, bToA, rfl, found, dirty⟩
      split at stepped <;> cases stepped
      exact clean.set ((clean.pool.put receiveEmpty).put sendEmpty) position
        (RelayCall.result_clean sendSound receiveSound sendEmpty receiveEmpty _ _)
    · cases stepped

/-- In every run of relays in which no relay puts a pipe back with bytes in it, every relay is
isolated in every state. -/
theorem isolated_of_drained_pipes (events : List SpliceEvent)
    (tidy : machine.Never DirtyPut idle events) : machine.Always Isolated idle events :=
  Machine.always_of_never Clean Clean.step
    (fun clean relay member => (clean.relays relay member).isolated) events ⟨nofun, nofun⟩ tidy

instance decidableDirtyPut (process : Process) : (event : SpliceEvent) →
    Decidable (process.DirtyPut event)
  | .finish position =>
    match found : process.relays[position]? with
    | some (.running aToB bToA) =>
      decidable_of_iff (¬(aToB.pipe = [] ∧ bToA.pipe = [])) (by simp [DirtyPut, found])
    | none | some .checked | some .tested | some (.finished ..) =>
      isFalse (by simp [DirtyPut, found])
  | .trySplice _ | .test .. | .noPipe _ | .noSecondPipe .. | .take .. | .sendMove ..
  | .receiveMove .. => isFalse (by simp [DirtyPut])

def tidyRelay (relay : Nat) (byte : UInt8) : List SpliceEvent :=
  [.trySplice true, .test relay none true, .take relay (some 0) none,
    .sendMove relay (.load [byte, byte]), .receiveMove relay (.load [byte + 1]),
    .sendMove relay (.drain 1), .receiveMove relay (.drain 1), .sendMove relay (.drain 1),
    .sendMove relay .eof, .receiveMove relay .eof, .finish relay]

/-- Two such relays one after the other put back empty pipes and are isolated. -/
theorem tidy_relays_isolated :
    machine.Never DirtyPut idle (tidyRelay 0 0x61 ++ tidyRelay 1 0x71) ∧
      machine.Always Isolated idle (tidyRelay 0 0x61 ++ tidyRelay 1 0x71) :=
  ⟨by decide, isolated_of_drained_pipes _ (by decide)⟩

/-- A relay reads a byte into its pipe and cannot write it; the next relay gets the pipe. -/
def leakingRun : List SpliceEvent :=
  [.trySplice true, .test 0 none true, .take 0 (some 0) none,
    .sendMove 0 (.load [0x61]), .sendMove 0 .drainError, .receiveMove 0 .eof, .finish 0,
    .trySplice true, .test 1 (some 0) true, .take 1 (some 0) (some 0),
    .sendMove 1 (.load [0x71]), .sendMove 1 (.drain 1)]

def leakedProcess : Process :=
  ⟨[], [.finished ⟨[0x61], [], [0x61], 1, 0, some true⟩ ⟨[], [], [], 0, 0, some false⟩ 0 0 false,
    .running ⟨[0x71], [0x61], [0x71], 0, 1, none⟩ (.start [])]⟩

/-- Neither of the two relays is isolated at the end of that run. -/
theorem pipe_leaks_to_next_relay :
    machine.run idle leakingRun = some leakedProcess ∧
      (∀ relay ∈ leakedProcess.relays, ¬relay.Isolated) ∧
      ¬machine.Always Isolated idle leakingRun := by
  have leaks : ∀ relay ∈ leakedProcess.relays, ¬relay.Isolated := by
    intro relay member isolated
    rcases mem_cons.mp member with first | later
    · subst first
      exact absurd (isolated.2.2 rfl).1 (by decide)
    · cases mem_singleton.mp later
      exact absurd isolated.1 (by decide)
  refine ⟨rfl, leaks, fun always => ?_⟩
  have isolated := always leakingRun [] leakedProcess (append_nil _).symm rfl
  exact leaks _ mem_cons_self (isolated _ mem_cons_self)

end Process

end Shuttle.Relay
