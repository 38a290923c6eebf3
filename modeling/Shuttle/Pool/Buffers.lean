import Shuttle.Lib.Machine
import Mathlib.Data.List.Perm.Basic

/-!
# The buffer pool

`internal/pool/pool.go` keeps buffers in four tiers. `Get` chooses the tier by the requested size
and `Put` by the capacity; a size above the largest tier gets a buffer of its own, which is not
counted. A `sync.Pool` returns any of its buffers or a new one, and may drop buffers at any time.
-/

namespace Shuttle.Pool

open Shuttle.Lib List

inductive Tier where
  | small | medium | medLarge | large
  deriving DecidableEq

def Tier.capacity : Tier → Nat
  | .small => 1024
  | .medium => 16384
  | .medLarge => 32768
  | .large => 65536

def tierOf (size : Nat) : Tier :=
  if size ≤ 1024 then .small
  else if size ≤ 16384 then .medium
  else if size ≤ 32768 then .medLarge
  else .large

/-- A buffer that was put back, and whether by a call that zeroes it. -/
structure Pooled where
  tier : Tier
  bytes : List UInt8
  zeroed : Bool

/-- A buffer in use, which may hold anything, and the tier it was counted in. -/
structure Lent where
  tier : Option Tier
  capacity : Nat

structure BufferPool where
  pooled : List Pooled
  lent : List Lent
  gets : Tier → Nat
  puts : Tier → Nat

inductive PoolEvent where
  /-- `Get`; the number of the pooled buffer it is given, none for a new one. -/
  | get (size : Nat) (pooled : Option Nat)
  | getMedLarge (pooled : Option Nat)
  | put (lent : Nat)
  | putMedLarge (lent : Nat)
  /-- With what its holder has written. -/
  | putMedLargeNoZero (lent : Nat) (bytes : List UInt8)
  | drop (pooled : Nat)

namespace BufferPool

variable (pool : BufferPool)

def lend (tier : Tier) (capacity : Nat) : BufferPool :=
  { pool with
    lent := pool.lent ++ [⟨some tier, capacity⟩]
    gets := Function.update pool.gets tier (pool.gets tier + 1) }

def take (tier : Tier) : Option Nat → Option BufferPool
  | none => some (pool.lend tier tier.capacity)
  | some index => (pool.pooled[index]?).bind fun buffer =>
    if buffer.tier = tier then
      some ({ pool with pooled := pool.pooled.eraseIdx index }.lend tier buffer.bytes.length)
    else none

def give (index : Nat) (buffer : Pooled) : BufferPool :=
  { pool with
    pooled := buffer :: pool.pooled
    lent := pool.lent.eraseIdx index
    puts := Function.update pool.puts buffer.tier (pool.puts buffer.tier + 1) }

def step : PoolEvent → Option BufferPool
  | .get size choice =>
    if 65536 < size then some { pool with lent := pool.lent ++ [⟨none, size⟩] }
    else pool.take (tierOf size) choice
  | .getMedLarge choice => pool.take .medLarge choice
  | .put index => (pool.lent[index]?).map fun buffer =>
    pool.give index ⟨tierOf buffer.capacity, replicate buffer.capacity 0, true⟩
  | .putMedLarge index => (pool.lent[index]?).bind fun buffer =>
    if buffer.tier = some .medLarge then
      some (pool.give index ⟨.medLarge, replicate buffer.capacity 0, true⟩)
    else none
  | .putMedLargeNoZero index bytes => (pool.lent[index]?).bind fun buffer =>
    if buffer.tier = some .medLarge ∧ bytes.length = buffer.capacity then
      some (pool.give index ⟨.medLarge, bytes, false⟩)
    else none
  | .drop index => some { pool with pooled := pool.pooled.eraseIdx index }

def machine : Machine BufferPool PoolEvent := ⟨step⟩

def start : BufferPool := ⟨[], [], fun _ => 0, fun _ => 0⟩

/-- Every size can be sliced from the buffers of its tier, and what `Put` returned is zero. -/
def Safe : Prop :=
  ∀ buffer ∈ pool.pooled,
    (∀ size ≤ 65536, tierOf size = buffer.tier → (buffer.bytes.take size).length = size) ∧
      (buffer.zeroed = true → ∀ byte ∈ buffer.bytes, byte = 0)

/-- `InUse` of every tier is the number of its buffers in use. -/
def Counted : Prop :=
  ∀ tier, (pool.gets tier : Int) - pool.puts tier = pool.lent.countP (·.tier = some tier)

/-- A buffer above the largest tier is put back. -/
def PutsDedicated : PoolEvent → Prop
  | .put index => ∃ buffer, pool.lent[index]? = some buffer ∧ buffer.tier = none
  | _ => False

def Fits (tier : Tier) (capacity : Nat) : Prop := tierOf capacity = tier ∧ tier.capacity ≤ capacity

/-- Buffers have a capacity of their tier, those of their own one of the largest. -/
structure Sized : Prop where
  pooled : ∀ buffer ∈ pool.pooled, Fits buffer.tier buffer.bytes.length ∧
    (buffer.zeroed = true → ∀ byte ∈ buffer.bytes, byte = 0)
  lent : ∀ buffer ∈ pool.lent, Fits (buffer.tier.getD .large) buffer.capacity

variable {pool} {next : BufferPool} {event : PoolEvent} {tier : Tier} {index : Nat}
  {buffer : Lent}

theorem le_capacity {size : Nat} (most : size ≤ 65536) : size ≤ (tierOf size).capacity := by
  unfold tierOf
  split_ifs <;> simp only [Tier.capacity] <;> omega

theorem Sized.safe (sized : pool.Sized) : pool.Safe := by
  intro buffer listed
  have ⟨⟨_, enough⟩, clear⟩ := sized.pooled buffer listed
  refine ⟨fun size most same => ?_, clear⟩
  have fits := le_capacity most
  rw [same] at fits
  simp only [length_take]
  omega

theorem lend_spec (sized : pool.Sized) {capacity : Nat} (fits : Fits tier capacity) :
    (pool.lend tier capacity).Sized ∧ ((pool.lend tier capacity).Counted ↔ pool.Counted) := by
  refine ⟨⟨sized.pooled, fun buffer listed => ?_⟩, forall_congr' fun other => ?_⟩
  · rcases mem_append.mp listed with old | new
    · exact sized.lent buffer old
    · rw [mem_singleton.mp new]
      exact fits
  · by_cases own : other = tier
    · subst own
      simp [lend, countP_append]
      omega
    · simp [lend, countP_append, own, Ne.symm own]

theorem Sized.drop (sized : pool.Sized) (index : Nat) :
    Sized { pool with pooled := pool.pooled.eraseIdx index } :=
  ⟨fun buffer listed => sized.pooled buffer (mem_of_mem_eraseIdx listed), sized.lent⟩

theorem take_spec {choice : Option Nat} (sized : pool.Sized)
    (taken : pool.take tier choice = some next) :
    next.Sized ∧ (next.Counted ↔ pool.Counted) := by
  cases choice with
  | none =>
    cases taken
    refine lend_spec sized ⟨?_, Nat.le_refl _⟩
    cases tier <;> decide
  | some index =>
    have ⟨buffer, found, rest⟩ := Option.bind_eq_some_iff.mp taken
    have ⟨own, same⟩ := Option.ite_none_right_eq_some.mp rest
    cases same
    exact lend_spec (sized.drop index) (own ▸ (sized.pooled buffer (mem_of_getElem? found)).1)

theorem give_spec (kept : Pooled) (sized : pool.Sized) (found : pool.lent[index]? = some buffer)
    (fits : Fits kept.tier kept.bytes.length)
    (clear : kept.zeroed = true → ∀ byte ∈ kept.bytes, byte = 0) :
    (pool.give index kept).Sized ∧
      (pool.Counted → ((pool.give index kept).Counted ↔ buffer.tier = some kept.tier)) := by
  refine ⟨⟨fun buffer listed => ?_, fun buffer listed => ?_⟩, fun counted => ?_⟩
  · rcases mem_cons.mp listed with rfl | old
    · exact ⟨fits, clear⟩
    · exact sized.pooled buffer old
  · exact sized.lent buffer (mem_of_mem_eraseIdx listed)
  obtain ⟨inside, rfl⟩ := List.getElem?_eq_some_iff.mp found
  have count (other : Tier) := (List.getElem_cons_eraseIdx_perm inside).countP_eq
    (fun lent : Lent => decide (lent.tier = some other))
  simp only [countP_cons, decide_eq_true_eq] at count
  constructor
  · intro after
    have now := after kept.tier
    have before := counted kept.tier
    simp only [give, Function.update_self, ← count] at now before
    by_contra other
    rw [if_neg other] at before
    omega
  · intro own other
    have before := counted other
    rw [← count, own] at before
    by_cases same : other = kept.tier
    · subst same
      simp [give] at before ⊢
      omega
    · simp [give, same, Ne.symm same] at before ⊢
      omega

theorem step_spec (sized : pool.Sized) (stepped : pool.step event = some next) :
    next.Sized ∧ (pool.Counted → (next.Counted ↔ ¬pool.PutsDedicated event)) := by
  cases event with
  | get size choice =>
    rw [step] at stepped
    split at stepped
    · cases stepped
      rename_i above
      refine ⟨⟨sized.pooled, fun buffer listed => ?_⟩,
        fun counted => iff_of_true (fun tier => ?_) nofun⟩
      · rcases mem_append.mp listed with old | new
        · exact sized.lent buffer old
        · rw [mem_singleton.mp new]
          exact ⟨by grind [tierOf], Nat.le_of_lt above⟩
      · simpa [countP_append] using counted tier
    · have ⟨kept, same⟩ := take_spec sized stepped
      exact ⟨kept, fun counted => iff_of_true (same.mpr counted) nofun⟩
  | getMedLarge choice =>
    have ⟨kept, same⟩ := take_spec sized stepped
    exact ⟨kept, fun counted => iff_of_true (same.mpr counted) nofun⟩
  | put index =>
    obtain ⟨buffer, found, rfl⟩ := Option.map_eq_some_iff.mp stepped
    have ⟨own, enough⟩ := sized.lent buffer (mem_of_getElem? found)
    have ⟨kept, same⟩ := give_spec ⟨tierOf buffer.capacity, replicate buffer.capacity 0, true⟩
      sized found ⟨by simp, by simpa [own] using enough⟩ (by simp)
    refine ⟨kept, fun counted => (same counted).trans ?_⟩
    cases tier : buffer.tier <;> simp_all [PutsDedicated]
  | putMedLarge index =>
    have ⟨buffer, found, rest⟩ := Option.bind_eq_some_iff.mp stepped
    have ⟨own, same⟩ := Option.ite_none_right_eq_some.mp rest
    cases same
    have fits := sized.lent buffer (mem_of_getElem? found)
    rw [own] at fits
    have ⟨kept, same⟩ := give_spec ⟨.medLarge, replicate buffer.capacity 0, true⟩ sized found
      (by simpa using fits) (by simp)
    exact ⟨kept, fun counted => iff_of_true ((same counted).mpr own) nofun⟩
  | putMedLargeNoZero index bytes =>
    have ⟨buffer, found, rest⟩ := Option.bind_eq_some_iff.mp stepped
    have ⟨⟨own, length⟩, same⟩ := Option.ite_none_right_eq_some.mp rest
    cases same
    have fits := sized.lent buffer (mem_of_getElem? found)
    rw [own, ← length] at fits
    have ⟨kept, same⟩ := give_spec ⟨.medLarge, bytes, false⟩ sized found fits nofun
    exact ⟨kept, fun counted => iff_of_true ((same counted).mpr own) nofun⟩
  | drop index =>
    cases stepped
    exact ⟨sized.drop index, fun counted => iff_of_true counted nofun⟩

/-- New buffers are long enough for every size of their tier, in every run pooled ones are as well
and zeroed ones are zero; `InUse` is right exactly as long as no buffer above the largest tier is
put back. -/
theorem counted_iff_never_dedicated (events : List PoolEvent) :
    (∀ size ≤ 65536, size ≤ (tierOf size).capacity) ∧ machine.Always Safe start events ∧
      (machine.Always Counted start events ↔ machine.Never PutsDedicated start events) := by
  have sized : start.Sized := ⟨nofun, nofun⟩
  refine ⟨fun _ => le_capacity, ?_, ?_⟩
  · intro before after reached _ ran
    exact (Machine.run_invariant Sized (fun sized stepped => (step_spec sized stepped).1) before
      sized ran).safe
  · refine Machine.always_iff_never Sized (fun sized counted stepped => ?_) events sized
      fun _ => rfl
    have ⟨kept, same⟩ := step_spec sized stepped
    exact ⟨kept, same counted⟩

/-- After `Put(Get(65537))` the largest tier has minus one buffer in use. -/
theorem dedicated_put_counted :
    ((machine.run start [.get 65537 none, .put 0]).map fun pool =>
      ((pool.gets .large : Int) - pool.puts .large, pool.lent.length)) = some (-1, 0) := by
  rfl

end BufferPool

end Shuttle.Pool
