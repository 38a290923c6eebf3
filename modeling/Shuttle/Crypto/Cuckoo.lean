import Mathlib.Data.UInt
import Shuttle.Lib.CuckooTable

/-!
# The cuckoo filter behind the replay check

One-byte fingerprints live in buckets of four slots, zero meaning empty. An insertion into two full
buckets displaces up to `maxKicks` fingerprints; the buckets and slots it picks are arbitrary here.
Bucket accesses are checked at run time and may panic, written `none`: this happens for the
capacities whose bucket count wraps to zero.
-/

namespace Shuttle.Crypto

open Shuttle.Lib CuckooTable

def bucketSize : Nat := 4

def maxKicks : Nat := 500

/-- Buckets are addressed by machine words; those from `numBuckets` on are never read. -/
structure CuckooFilter where
  buckets : Table UInt32 UInt8 bucketSize
  count : Nat
  numBuckets : UInt32

/-- Round up to a power of two by smearing the highest bit; wraps to zero above `2^31`. -/
def nextPow2 (v : UInt32) : UInt32 :=
  let v := v - 1
  let v := v ||| v >>> 1
  let v := v ||| v >>> 2
  let v := v ||| v >>> 4
  let v := v ||| v >>> 8
  let v := v ||| v >>> 16
  v + 1

/-- The source converts the capacity without checks: Go's truncating quotient, and its low 32 bits.
-/
def newCuckooFilter (capacity : Int) : CuckooFilter :=
  let numBuckets := UInt32.ofInt (capacity.tdiv bucketSize)
  let numBuckets := if numBuckets = 0 then 1024 else numBuckets
  { buckets := fun _ _ => 0, count := 0, numBuckets := nextPow2 numBuckets }

namespace CuckooFilter

/-- Xor of the five low bytes, with zero replaced by one. -/
def fingerprint (x : UInt64) : UInt8 :=
  let fp := (x >>> 32).toUInt8 ^^^ (x >>> 24).toUInt8 ^^^ (x >>> 16).toUInt8 ^^^
    (x >>> 8).toUInt8 ^^^ x.toUInt8
  if fp = 0 then 1 else fp

variable (filter : CuckooFilter)

variable (x : UInt64) (idx : UInt32)

def index1 : UInt32 :=
  x.toUInt32 &&& (filter.numBuckets - 1)

def index2 (i1 : UInt32) (fp : UInt8) : UInt32 :=
  let hash := fp.toUInt32 * 0x5bd1e995
  (i1 ^^^ hash) &&& (filter.numBuckets - 1)

def bucketContains (fp : UInt8) : Option Bool :=
  if idx < filter.numBuckets then
    some ((List.finRange bucketSize).any fun slot => filter.buckets idx slot == fp)
  else none

def lookup : Option Bool :=
  let fp := fingerprint x
  let i1 := filter.index1 x
  let i2 := filter.index2 i1 fp
  match filter.bucketContains i1 fp with
  | none => none
  | some true => some true
  | some false => filter.bucketContains i2 fp

def write (slot : Fin bucketSize) (fp : UInt8) : CuckooFilter :=
  { filter with buckets := put filter.buckets idx slot fp }

def counted : CuckooFilter := { filter with count := filter.count + 1 }

/-- Fill the first empty slot of a bucket; false when there is none. -/
def bucketInsert (fp : UInt8) : Option (CuckooFilter × Bool) :=
  if idx < filter.numBuckets then
    match (List.finRange bucketSize).find? fun slot => filter.buckets idx slot == 0 with
    | some slot => some (filter.write idx slot fp, true)
    | none => some (filter, false)
  else none

structure Choices where
  /-- The first draw picked the second bucket. -/
  second : Bool
  /-- The slot drawn with this many displacements left. -/
  slots : Nat → Fin bucketSize

/-- The displacement loop: put the fingerprint in hand into a drawn slot and try the other bucket of
the one that was there. -/
def kick (filter : CuckooFilter) (slots : Nat → Fin bucketSize) :
    Nat → UInt32 → UInt8 → Option (CuckooFilter × Bool)
  | 0, _, _ => some (filter, false)
  | left + 1, idx, fp =>
    if idx < filter.numBuckets then
      let old := filter.buckets idx (slots left)
      let swapped := filter.write idx (slots left) fp
      let other := swapped.index2 idx old
      match swapped.bucketInsert other old with
      | none => none
      | some (placed, true) => some (placed.counted, true)
      | some (kept, false) => kick kept slots left other old
    else none

/-- Insertion: either bucket of the value, then displacement. -/
def insert (choices : Choices) : Option (CuckooFilter × Bool) :=
  let fp := fingerprint x
  let i1 := filter.index1 x
  let i2 := filter.index2 i1 fp
  match filter.bucketInsert i1 fp with
  | none => none
  | some (placed, true) => some (placed.counted, true)
  | some (filter, false) =>
    match filter.bucketInsert i2 fp with
    | none => none
    | some (placed, true) => some (placed.counted, true)
    | some (filter, false) =>
      filter.kick choices.slots maxKicks (if choices.second then i2 else i1) fp

/-- Insertions in order, as long as each returns true. -/
def insertAll (filter : CuckooFilter) : List (UInt64 × Choices) → Option CuckooFilter
  | [] => some filter
  | (x, choices) :: rest =>
    match filter.insert x choices with
    | some (inserted, true) => inserted.insertAll rest
    | _ => none

def indices : Finset UInt32 :=
  (Finset.range filter.numBuckets.toNat).image UInt32.ofNat

def nonzeroSlots : Nat :=
  occupied filter.buckets filter.indices

/-! ## Indices -/

theorem fingerprint_ne_zero : fingerprint x ≠ 0 := by
  unfold fingerprint
  dsimp only
  split
  · decide
  · assumption

theorem masked_lt {word count : UInt32} (positive : count ≠ 0) : word &&& (count - 1) < count := by
  have nonzero : count.toNat ≠ 0 := fun zero => positive (UInt32.toNat_inj.mp zero)
  have predecessor : (count - 1).toNat = count.toNat - 1 := by
    rw [UInt32.toNat_sub_of_le]
    · rfl
    · exact UInt32.le_iff_toNat_le.mpr (Nat.one_le_iff_ne_zero.mpr nonzero)
  have below : (word &&& (count - 1)).toNat ≤ (count - 1).toNat := by
    exact Nat.and_le_right
  apply UInt32.lt_iff_toNat_lt.mpr
  omega

theorem masked_masked (word mask : UInt32) : word &&& mask &&& mask = word &&& mask := by
  rw [UInt32.and_assoc, UInt32.and_self]

theorem masked_xor_xor (index hash mask : UInt32) :
    ((index &&& mask ^^^ hash) &&& mask ^^^ hash) &&& mask = index &&& mask := by
  apply UInt32.toBitVec_inj.mp
  apply BitVec.eq_of_getLsbD_eq
  intro bit _
  simp only [UInt32.toBitVec_and, UInt32.toBitVec_xor, BitVec.getLsbD_and, BitVec.getLsbD_xor]
  cases index.toBitVec.getLsbD bit <;> cases hash.toBitVec.getLsbD bit <;>
    cases mask.toBitVec.getLsbD bit <;> rfl

/-- An index the filter computes: the mask keeps it. -/
def Masked : Prop := idx &&& (filter.numBuckets - 1) = idx

theorem index1_masked : filter.Masked (filter.index1 x) :=
  masked_masked ..

theorem index2_masked (fp : UInt8) : filter.Masked (filter.index2 idx fp) :=
  masked_masked ..

variable {filter : CuckooFilter} {idx : UInt32} {members : UInt64 → Prop}

theorem index2_index2 (masked : filter.Masked idx)
    (fp : UInt8) : filter.index2 (filter.index2 idx fp) fp = idx := by
  have back := masked_xor_xor idx (fp.toUInt32 * 0x5bd1e995) (filter.numBuckets - 1)
  rw [masked] at back
  exact back

theorem Masked.lt (masked : filter.Masked idx)
    (positive : filter.numBuckets ≠ 0) : idx < filter.numBuckets := by
  rw [← masked]
  exact masked_lt positive

theorem mem_indices (below : idx < filter.numBuckets) : idx ∈ filter.indices := by
  refine Finset.mem_image.mpr ⟨idx.toNat, ?_, UInt32.ofNat_toNat⟩
  exact Finset.mem_range.mpr (UInt32.lt_iff_toNat_lt.mp below)

/-! ## Bucket operations -/

theorem bucketContains_iff (below : idx < filter.numBuckets) (fp : UInt8) :
    filter.bucketContains idx fp = some (decide (Holds filter.buckets idx fp)) := by
  simp only [bucketContains, below, ↓reduceIte, Option.some.injEq]
  apply Bool.eq_iff_iff.mpr
  rw [decide_eq_true_iff]
  simp [Holds]

theorem bucketInsert_cases (filter : CuckooFilter) (below : idx < filter.numBuckets) (fp : UInt8) :
    (∃ slot, filter.buckets idx slot = 0 ∧
        filter.bucketInsert idx fp = some (filter.write idx slot fp, true)) ∨
      (Full filter.buckets idx ∧
        filter.bucketInsert idx fp = some (filter, false)) := by
  unfold bucketInsert
  rw [if_pos below]
  cases scan : (List.finRange bucketSize).find? fun slot => filter.buckets idx slot == 0 with
  | some slot =>
    have empty := List.find?_some scan
    exact .inl ⟨slot, by simpa using empty, rfl⟩
  | none =>
    have none_empty := List.find?_eq_none.mp scan
    refine .inr ⟨fun slot => ?_, rfl⟩
    simpa using none_empty slot (List.mem_finRange slot)

theorem lookup_eq (positive : filter.numBuckets ≠ 0) (x : UInt64) :
    filter.lookup x = some (decide
      (Holds filter.buckets (filter.index1 x) (fingerprint x) ∨
        Holds filter.buckets (filter.index2 (filter.index1 x) (fingerprint x))
          (fingerprint x))) := by
  have first := bucketContains_iff ((index1_masked filter x).lt positive) (fingerprint x)
  have second := bucketContains_iff
    ((index2_masked filter (filter.index1 x) (fingerprint x)).lt positive) (fingerprint x)
  unfold lookup
  dsimp only
  rw [first, second]
  by_cases stored : Holds filter.buckets (filter.index1 x) (fingerprint x) <;>
    simp [stored]

/-! ## Insertion -/

/-- Every member's fingerprint is in one of its buckets or in hand. -/
def Covers (filter : CuckooFilter) (hand : Option (UInt32 × UInt8)) (members : UInt64 → Prop) :
    Prop :=
  ∀ x, members x → Sheltered filter.index2 filter.buckets hand (filter.index1 x)
    (fingerprint x)

/-- No inserted value is missed, and the count is the number of non-zero slots. -/
structure Faithful (filter : CuckooFilter) (members : UInt64 → Prop) : Prop where
  covers : filter.Covers none members
  exactCount : filter.count = filter.nonzeroSlots

theorem faithful_place {fp : UInt8}
    {slot : Fin bucketSize} (below : idx < filter.numBuckets) (nonzero : fp ≠ 0)
    (empty : filter.buckets idx slot = 0) (covers : filter.Covers (some (idx, fp)) members)
    (exactCount : filter.count = filter.nonzeroSlots) :
    (filter.write idx slot fp).counted.Faithful members := by
  constructor
  · intro x member
    exact sheltered_fill empty (fingerprint_ne_zero x) (covers x member)
  · have more := occupied_fill (mem_indices below) empty nonzero
    change filter.count + 1 =
      occupied (put filter.buckets idx slot fp) filter.indices
    rw [more, exactCount]
    rfl

theorem covers_displace
    {fp : UInt8} (slot : Fin bucketSize) (full : Full filter.buckets idx)
    (nonzero : fp ≠ 0) (covers : filter.Covers (some (idx, fp)) members)
    (exactCount : filter.count = filter.nonzeroSlots) :
    (filter.write idx slot fp).Covers
        (some (filter.index2 idx (filter.buckets idx slot), filter.buckets idx slot)) members ∧
      (filter.write idx slot fp).count = (filter.write idx slot fp).nonzeroSlots := by
  constructor
  · intro x member
    exact sheltered_displace slot (index2_index2 (index1_masked filter x) _)
      (covers x member)
  · have same := occupied_displace filter.indices (full slot) nonzero
    change filter.count =
      occupied (put filter.buckets idx slot fp) filter.indices
    rw [same, exactCount]
    rfl

/-- The displacement loop ends without a panic; if it found a place, every member is sheltered. -/
theorem kick_spec (members : UInt64 → Prop) (slots : Nat → Fin bucketSize) (left : Nat)
    (filter : CuckooFilter) (idx : UInt32) (fp : UInt8) (positive : filter.numBuckets ≠ 0)
    (masked : filter.Masked idx) :
    ∃ result done, filter.kick slots left idx fp = some (result, done) ∧
      result.numBuckets = filter.numBuckets ∧ (done = true → fp ≠ 0 → Full filter.buckets idx →
      filter.Covers (some (idx, fp)) members → filter.count = filter.nonzeroSlots →
      result.Faithful members) := by
  induction left generalizing filter idx fp with
  | zero =>
    exact ⟨filter, false, rfl, rfl, nofun⟩
  | succ left ih =>
    unfold kick
    rw [if_pos (masked.lt positive)]
    have other := index2_masked (filter.write idx (slots left) fp) idx
      (filter.buckets idx (slots left))
    rcases bucketInsert_cases (filter.write idx (slots left) fp) (other.lt positive)
        (filter.buckets idx (slots left)) with ⟨slot, empty, placed⟩ | ⟨stillFull, refused⟩
    · simp only [placed]
      refine ⟨_, true, rfl, rfl, fun _ nonzero full covers exactCount => ?_⟩
      have ⟨swapped, swappedCount⟩ := covers_displace (slots left) full nonzero covers exactCount
      exact faithful_place (other.lt positive) (full (slots left)) empty swapped swappedCount
    · simp only [refused]
      have ⟨result, done, ran, size, found⟩ := ih (filter.write idx (slots left) fp) _
        (filter.buckets idx (slots left)) positive other
      refine ⟨result, done, ran, size, fun success nonzero full covers exactCount => ?_⟩
      have ⟨swapped, swappedCount⟩ := covers_displace (slots left) full nonzero covers exactCount
      exact found success (full (slots left)) stillFull swapped swappedCount

theorem insert_spec (members : UInt64 → Prop) (positive : filter.numBuckets ≠ 0) (x : UInt64)
    (choices : Choices) :
    ∃ result done, filter.insert x choices = some (result, done) ∧
      result.numBuckets = filter.numBuckets ∧ (done = true → filter.Faithful members →
        result.Faithful fun y => y = x ∨ members y) := by
  have first := index1_masked filter x
  have second := index2_masked filter (filter.index1 x) (fingerprint x)
  have nonzero := fingerprint_ne_zero x
  have carried (faithful : filter.Faithful members) (idx : UInt32) (home : idx = filter.index1 x ∨
      idx = filter.index2 (filter.index1 x) (fingerprint x)) :
      filter.Covers (some (idx, fingerprint x)) (fun y => y = x ∨ members y) := by
    intro y member
    rcases member with rfl | member
    · rcases home with rfl | rfl
      · exact .inr (.inr (.inl rfl))
      · exact .inr (.inr (.inr rfl))
    · exact (faithful.covers y member).carry _
  unfold insert
  rcases bucketInsert_cases filter (first.lt positive) (fingerprint x) with
    ⟨slot, empty, placed⟩ | ⟨full, refused⟩
  · simp only [placed]
    refine ⟨_, true, rfl, rfl, fun _ faithful => ?_⟩
    exact faithful_place (first.lt positive) nonzero empty (carried faithful _ (.inl rfl))
      faithful.exactCount
  rcases bucketInsert_cases filter (second.lt positive) (fingerprint x) with
    ⟨slot, empty, placed⟩ | ⟨otherFull, otherRefused⟩
  · simp only [refused, placed]
    refine ⟨_, true, rfl, rfl, fun _ faithful => ?_⟩
    exact faithful_place (second.lt positive) nonzero empty (carried faithful _ (.inr rfl))
      faithful.exactCount
  · simp only [refused, otherRefused]
    cases choices.second with
    | true =>
      have ⟨result, done, ran, size, found⟩ := kick_spec (fun y => y = x ∨ members y)
        choices.slots maxKicks filter _ (fingerprint x) positive second
      exact ⟨result, done, ran, size, fun success faithful => found success nonzero otherFull
        (carried faithful _ (.inr rfl)) faithful.exactCount⟩
    | false =>
      have ⟨result, done, ran, size, found⟩ := kick_spec (fun y => y = x ∨ members y)
        choices.slots maxKicks filter _ (fingerprint x) positive first
      exact ⟨result, done, ran, size, fun success faithful => found success nonzero full
        (carried faithful _ (.inl rfl)) faithful.exactCount⟩

theorem insert_faithful {result : CuckooFilter} {x : UInt64}
    {choices : Choices} (faithful : filter.Faithful members)
    (inserted : filter.insert x choices = some (result, true)) :
    result.Faithful (fun y => y = x ∨ members y) ∧ result.numBuckets = filter.numBuckets ∧
      filter.numBuckets ≠ 0 := by
  have positive : filter.numBuckets ≠ 0 := by
    intro zero
    have outside : ¬filter.index1 x < filter.numBuckets := by simp [zero]
    simp [insert, bucketInsert, outside] at inserted
  have ⟨_, _, same, size, found⟩ := insert_spec members positive x choices
  cases inserted.symm.trans same
  exact ⟨found rfl faithful, size, positive⟩

theorem newCuckooFilter_faithful (capacity : Int) :
    (newCuckooFilter capacity).Faithful (fun _ => False) := by
  constructor
  · intro x member
    contradiction
  · exact (occupied_zero _).symm

theorem Faithful.lookup
    (faithful : filter.Faithful members) (positive : filter.numBuckets ≠ 0) {x : UInt64}
    (member : members x) : filter.lookup x = some true := by
  have stored := sheltered_none_iff.mp (faithful.covers x member)
  rw [lookup_eq positive x, decide_eq_true stored]

theorem insertAll_faithful (values : List (UInt64 × Choices)) {filter result : CuckooFilter}
    {members : UInt64 → Prop} (faithful : filter.Faithful members)
    (ran : filter.insertAll values = some result) :
    result.Faithful (fun y => y ∈ values.map Prod.fst ∨ members y) ∧
      (values ≠ [] → result.numBuckets ≠ 0) := by
  induction values generalizing filter result members with
  | nil =>
    obtain rfl := Option.some.inj ran
    exact ⟨⟨fun x member => faithful.covers x (by simpa using member), faithful.exactCount⟩,
      fun nonempty => absurd rfl nonempty⟩
  | cons first rest ih =>
    obtain ⟨x, choices⟩ := first
    unfold insertAll at ran
    split at ran
    · rename_i next inserted
      obtain ⟨oneMore, size, positive⟩ := insert_faithful faithful inserted
      obtain ⟨all, restPositive⟩ := ih oneMore ran
      refine ⟨⟨fun y member => all.covers y ?_, all.exactCount⟩, fun _ => ?_⟩
      · simp only [List.map_cons, List.mem_cons] at member
        tauto
      · cases rest with
        | nil =>
          obtain rfl := Option.some.inj ran
          rw [size]
          exact positive
        | cons second rest => exact restPositive (by simp)
    · contradiction

/-- No false negatives: after any insertions that all returned true, in any order and under any
random draws, every inserted value is found and the count is the number of non-zero slots. -/
theorem insertAll_finds_every_value (capacity : Int) (values : List (UInt64 × Choices))
    (result : CuckooFilter)
    (succeeded : (newCuckooFilter capacity).insertAll values = some result) :
    (∀ x ∈ values.map Prod.fst, result.lookup x = some true) ∧
      result.count = result.nonzeroSlots := by
  obtain ⟨faithful, positive⟩ := insertAll_faithful values (newCuckooFilter_faithful capacity)
    succeeded
  refine ⟨fun x member => ?_, faithful.exactCount⟩
  have nonempty : values ≠ [] := by
    rintro rfl
    simp at member
  exact faithful.lookup (positive nonempty) (.inl member)

def crowded : List (UInt64 × Choices) :=
  [2, 4, 6, 0x102, 8].map fun x => (x, ⟨false, fun _ => ⟨3, by decide⟩⟩)

/-- The law at a run that displaces: all five values are found and five slots are taken. -/
theorem crowded_finds_every_value : ∃ result, (newCuckooFilter 8).insertAll crowded = some result ∧
    (∀ x ∈ crowded.map Prod.fst, result.lookup x = some true) ∧
      result.count = result.nonzeroSlots := by
  obtain ⟨result, succeeded⟩ : ∃ result, (newCuckooFilter 8).insertAll crowded = some result :=
    Option.isSome_iff_exists.mp (by decide +kernel)
  exact ⟨result, succeeded, insertAll_finds_every_value 8 crowded result succeeded⟩

end CuckooFilter

end Shuttle.Crypto
