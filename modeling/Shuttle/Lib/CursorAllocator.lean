import Mathlib.Order.Interval.Finset.Nat

/-!
# Allocation of numbers by a cursor

An allocator keeps a cursor and the set of used numbers. It searches upwards from the cursor to a
stop, then from the lower bound up to the cursor, and a release moves the cursor back. The cursor
never passes a free number, so the result is the lowest free number below the stop, whatever the
stop is at each allocation.
-/

namespace Shuttle.Lib

open Finset

structure Cursor where
  next : Nat
  used : Nat → Bool

namespace Cursor

/-- The first unused number among this many from an offset on. -/
def firstFree (used : Nat → Bool) : Nat → Nat → Option Nat
  | 0, _ => none
  | left + 1, offset => if used offset then firstFree used left (offset + 1) else some offset

variable (cursor : Cursor)

def take (offset : Nat) : Cursor :=
  ⟨offset + 1, Function.update cursor.used offset true⟩

/-- Search from the cursor to the stop, then from the lower bound to the cursor. -/
def allocate (low stop : Nat) : Option (Nat × Cursor) :=
  match firstFree cursor.used (stop - cursor.next) cursor.next with
  | some offset => some (offset, cursor.take offset)
  | none =>
    match firstFree cursor.used (cursor.next - low) low with
    | some offset => some (offset, cursor.take offset)
    | none => none

def release (offset : Nat) : Cursor :=
  ⟨if offset < cursor.next then offset else cursor.next, Function.update cursor.used offset false⟩

theorem firstFree_some {used : Nat → Bool} (left : Nat) {offset found : Nat}
    (search : firstFree used left offset = some found) :
    offset ≤ found ∧ found < offset + left ∧ used found = false ∧ ∀ o, offset ≤ o → o < found →
      used o = true := by
  induction left generalizing offset found with
  | zero =>
    simp [firstFree] at search
  | succ left ih =>
    unfold firstFree at search
    cases taken : used offset with
    | true =>
      rw [taken] at search
      have ⟨above, below, free, passed⟩ := ih search
      refine ⟨by omega, by omega, free, fun o from_offset to_found => ?_⟩
      by_cases first : o = offset
      · rw [first]
        exact taken
      · exact passed o (by omega) to_found
    | false =>
      rw [taken] at search
      have same : offset = found := Option.some.inj search
      subst same
      exact ⟨Nat.le_refl _, by omega, taken, fun o _ _ => by omega⟩

theorem firstFree_none {used : Nat → Bool} (left : Nat) {offset : Nat}
    (search : firstFree used left offset = none) (o) (above : offset ≤ o)
    (below : o < offset + left) : used o = true := by
  induction left generalizing offset o with
  | zero =>
    omega
  | succ left ih =>
    unfold firstFree at search
    cases taken : used offset with
    | true =>
      rw [taken] at search
      by_cases first : o = offset
      · rw [first]
        exact taken
      · exact ih search o (by omega) (by omega)
    | false =>
      rw [taken] at search
      contradiction

theorem allocate_next {cursor result : Cursor} {low stop offset : Nat}
    (allocated : cursor.allocate low stop = some (offset, result)) : result.next = offset + 1 := by
  unfold allocate at allocated
  split at allocated
  · have same := Prod.mk.inj (Option.some.inj allocated)
    rw [← same.1, ← same.2]
    rfl
  · split at allocated
    · have same := Prod.mk.inj (Option.some.inj allocated)
      rw [← same.1, ← same.2]
      rfl
    · contradiction

/-- Exactly the taken numbers are used, all lie above the lower bound, and none between it and the
cursor is missing. -/
structure Accounts (cursor : Cursor) (low : Nat) (taken : Finset Nat) : Prop where
  started : low ≤ cursor.next
  exact : ∀ o, cursor.used o = true ↔ o ∈ taken
  above : ∀ o ∈ taken, low ≤ o
  packed : ∀ o, low ≤ o → o < cursor.next → o ∈ taken

def freeBelow (low stop : Nat) (taken : Finset Nat) : Set Nat :=
  {o | low ≤ o ∧ o < stop ∧ o ∉ taken}

variable {cursor : Cursor} {low : Nat} {taken : Finset Nat}

theorem accounts_empty (low : Nat) : (⟨low, fun _ => false⟩ : Cursor).Accounts low ∅ where
  started := Nat.le_refl low
  exact o := by simp
  above o member := absurd member (notMem_empty o)
  packed o above below := absurd below (Nat.not_lt.mpr above)

section

variable (accounts : cursor.Accounts low taken)

include accounts

theorem Accounts.take {offset : Nat} (above : low ≤ offset)
    (passed : ∀ o, low ≤ o → o < offset → o ∈ taken) :
    (cursor.take offset).Accounts low (insert offset taken) where
  started := Nat.le_succ_of_le above
  exact o := by
    by_cases same : o = offset
    · subst same
      simp [Cursor.take]
    · simp [Cursor.take, accounts.exact o, same]
  above o member := by
    rcases mem_insert.mp member with same | member
    · rw [same]
      exact above
    · exact accounts.above o member
  packed o bounded below := by
    by_cases same : o = offset
    · exact mem_insert.mpr (.inl same)
    have earlier : o < offset := by
      change o < offset + 1 at below
      omega
    exact mem_insert_of_mem (passed o bounded earlier)

theorem Accounts.release {offset : Nat}
    (member : offset ∈ taken) : (cursor.release offset).Accounts low (taken.erase offset) where
  started := by
    have above := accounts.above offset member
    have started := accounts.started
    unfold Cursor.release
    split <;> assumption
  exact o := by
    by_cases same : o = offset
    · subst same
      simp [Cursor.release]
    · simp [Cursor.release, accounts.exact o, same]
  above o kept := accounts.above o (mem_of_mem_erase kept)
  packed o bounded below := by
    unfold Cursor.release at below
    dsimp only at below
    refine mem_erase.mpr ⟨?_, accounts.packed o bounded ?_⟩ <;> split at below <;> omega

theorem Accounts.wrap_finds_nothing : firstFree cursor.used (cursor.next - low) low = none := by
  cases search : firstFree cursor.used (cursor.next - low) low with
  | none => rfl
  | some found =>
    have ⟨above, below, free, _⟩ := firstFree_some _ search
    have used := (accounts.exact found).mpr (accounts.packed found above (by omega))
    rw [free] at used
    contradiction

theorem Accounts.allocate_some {stop offset : Nat}
    {result : Cursor} (allocated : cursor.allocate low stop = some (offset, result)) :
    IsLeast (freeBelow low stop taken) offset ∧ result.Accounts low (insert offset taken) := by
  have started := accounts.started
  unfold allocate at allocated
  rw [accounts.wrap_finds_nothing] at allocated
  cases search : firstFree cursor.used (stop - cursor.next) cursor.next with
  | none =>
    rw [search] at allocated
    contradiction
  | some found =>
    rw [search] at allocated
    obtain ⟨rfl, rfl⟩ := Prod.mk.inj (Option.some.inj allocated)
    have ⟨above, below, free, scanned⟩ := firstFree_some _ search
    have passed : ∀ o, low ≤ o → o < found → o ∈ taken := by
      intro o bounded earlier
      by_cases behind : o < cursor.next
      · exact accounts.packed o bounded behind
      · exact (accounts.exact o).mp (scanned o (by omega) earlier)
    have absent : found ∉ taken := by
      intro member
      have used := (accounts.exact found).mpr member
      rw [free] at used
      contradiction
    refine ⟨⟨⟨by omega, by omega, absent⟩, fun o candidate => ?_⟩, accounts.take (by omega) passed⟩
    by_contra lower
    exact candidate.2.2 (passed o candidate.1 (by omega))

theorem Accounts.allocate_none (stop : Nat) :
    cursor.allocate low stop = none ↔ ∀ o, low ≤ o → o < stop → o ∈ taken := by
  constructor
  · intro failed o above below
    unfold allocate at failed
    cases search : firstFree cursor.used (stop - cursor.next) cursor.next with
    | some found =>
      rw [search] at failed
      contradiction
    | none =>
      by_cases behind : o < cursor.next
      · exact accounts.packed o above behind
      · have used := firstFree_none _ search o (by omega) (by omega)
        exact (accounts.exact o).mp used
  · intro full
    cases result : cursor.allocate low stop with
    | none => rfl
    | some pair =>
      have least := (accounts.allocate_some result).1
      exact absurd (full pair.1 least.1.1 least.1.2.1) least.1.2.2

end

/-! ## Issued values

Callers see values made from the numbers. Where different numbers in range make different
values, the account carries over to the values outstanding. -/

section Issues

variable {α : Type} [DecidableEq α] {address : Nat → α} {bound : Nat} {outstanding : Finset α}

/-- The state accounts for numbers in range whose values are exactly the outstanding ones. -/
def Issues (cursor : Cursor) (low bound : Nat) (address : Nat → α) (outstanding : Finset α) :
    Prop :=
  ∃ taken, cursor.Accounts low taken ∧ (∀ o ∈ taken, o < bound) ∧
    outstanding = taken.image address

theorem issues_empty (low bound : Nat) (address : Nat → α) :
    (⟨low, fun _ => false⟩ : Cursor).Issues low bound address ∅ :=
  ⟨∅, accounts_empty low, fun o member => absurd member (notMem_empty o), rfl⟩

theorem mem_image_address (injective : Set.InjOn address (Set.Iio bound))
    (below : ∀ o ∈ taken, o < bound) {o : Nat} (inRange : o < bound) :
    address o ∈ taken.image address ↔ o ∈ taken := by
  rw [mem_image]
  constructor
  · rintro ⟨other, held, same⟩
    rw [← injective (below other held) inRange same]
    exact held
  · intro held
    exact ⟨o, held, rfl⟩

section

variable (issues : cursor.Issues low bound address outstanding)

include issues

theorem Issues.allocate_some
    (injective : Set.InjOn address (Set.Iio bound)) {stop offset : Nat} (within : stop ≤ bound)
    {result : Cursor} (allocated : cursor.allocate low stop = some (offset, result)) :
    IsLeast {o | low ≤ o ∧ o < stop ∧ address o ∉ outstanding} offset ∧
      result.Issues low bound address (insert (address offset) outstanding) := by
  obtain ⟨taken, accounts, below, rfl⟩ := issues
  have ⟨⟨⟨above, early, absent⟩, minimal⟩, following⟩ := accounts.allocate_some allocated
  have member (o : Nat) (inRange : o < stop) : address o ∈ taken.image address ↔ o ∈ taken :=
    mem_image_address injective below (Nat.lt_of_lt_of_le inRange within)
  refine ⟨⟨⟨above, early, fun held => absent ((member offset early).mp held)⟩, ?_⟩, ?_⟩
  · intro o candidate
    refine minimal ⟨candidate.1, candidate.2.1, fun held => candidate.2.2 ?_⟩
    exact (member o candidate.2.1).mpr held
  · refine ⟨insert offset taken, following, fun o held => ?_, ?_⟩
    · rcases mem_insert.mp held with same | held
      · rw [same]
        exact Nat.lt_of_lt_of_le early within
      · exact below o held
    · rw [image_insert]

theorem Issues.allocate_none
    (injective : Set.InjOn address (Set.Iio bound)) {stop : Nat} (within : stop ≤ bound) :
    cursor.allocate low stop = none ↔ ∀ o, low ≤ o → o < stop → address o ∈ outstanding := by
  obtain ⟨taken, accounts, below, rfl⟩ := issues
  rw [accounts.allocate_none stop]
  constructor
  · intro full o above early
    exact mem_image_of_mem address (full o above early)
  · intro full o above early
    exact (mem_image_address injective below (Nat.lt_of_lt_of_le early within)).mp
      (full o above early)

theorem Issues.passed_le_card
    (injective : Set.InjOn address (Set.Iio bound)) : cursor.next - low ≤ outstanding.card := by
  obtain ⟨taken, accounts, below, rfl⟩ := issues
  have distinct : Set.InjOn address taken :=
    fun left leftHeld right rightHeld same =>
      injective (below left leftHeld) (below right rightHeld) same
  rw [card_image_of_injOn distinct]
  have included : Finset.Ico low cursor.next ⊆ taken := by
    intro o member
    have range := mem_Ico.mp member
    exact accounts.packed o range.1 range.2
  have counted := card_le_card included
  rw [Nat.card_Ico] at counted
  exact counted

theorem Issues.release
    (injective : Set.InjOn address (Set.Iio bound)) {value : α} (held : value ∈ outstanding) :
    ∃ offset, offset < bound ∧ value = address offset ∧
      (cursor.release offset).Issues low bound address (outstanding.erase value) := by
  obtain ⟨taken, accounts, below, rfl⟩ := issues
  have ⟨offset, member, same⟩ := mem_image.mp held
  refine ⟨offset, below offset member, same.symm, taken.erase offset, accounts.release member,
    fun o kept => below o (mem_of_mem_erase kept), ?_⟩
  subst same
  ext other
  rw [mem_erase, mem_image, mem_image]
  constructor
  · rintro ⟨different, o, kept, same⟩
    refine ⟨o, mem_erase.mpr ⟨fun equal => different ?_, kept⟩, same⟩
    rw [← same, equal]
  · rintro ⟨o, kept, same⟩
    have ⟨different, stays⟩ := mem_erase.mp kept
    refine ⟨fun equal => different ?_, o, stays, same⟩
    exact injective (below o stays) (below offset member) (same.trans equal)

end

end Issues

end Cursor

end Shuttle.Lib
