import Mathlib.Data.Fintype.EquivFin

/-!
# Two-way tables filled in ring order

A table assigns keys to the slots of a ring, one slot after the other, and looks up both ways.
A key that is present keeps its slot; a new key takes the slot at the cursor from whatever key
held it. The two directions stay inverse, and an entry survives exactly as many new keys as
lie between the cursor and its slot.
-/

namespace Shuttle.Lib

open Function

/-- A ring of slots with the two directions of the assignment. -/
structure RingTable (κ α : Type) where
  size : Nat
  /-- Slot taken by the next new key. -/
  next : Nat
  slot : Nat → α
  forward : κ → Option α
  reverse : α → Option κ

namespace RingTable

variable {κ α : Type} [DecidableEq κ] [DecidableEq α]

def advance (next size : Nat) : Nat := if next + 1 < size then next + 1 else 0

variable (table : RingTable κ α)

def evict (place : α) : κ → Option α :=
  match table.reverse place with
  | some old => Function.update table.forward old none
  | none => table.forward

def allocate (key : κ) : RingTable κ α where
  size := table.size
  next := advance table.next table.size
  slot := table.slot
  forward :=
    Function.update (table.evict (table.slot table.next)) key (some (table.slot table.next))
  reverse := Function.update table.reverse (table.slot table.next) (some key)

def lookup (key : κ) : α × RingTable κ α :=
  match table.forward key with
  | some place => (place, table)
  | none => (table.slot table.next, table.allocate key)

def run (table : RingTable κ α) : List κ → RingTable κ α
  | [] => table
  | key :: keys => (table.lookup key).2.run keys

/-- How many of the keys were new when they were looked up. -/
def allocations (table : RingTable κ α) : List κ → Nat
  | [] => 0
  | key :: keys =>
    (if table.forward key = none then 1 else 0) + (table.lookup key).2.allocations keys

/-- New keys that can follow before a position is taken again. -/
def slack (next size position : Nat) : Nat :=
  if next ≤ position then position - next else position + size - next

/-- A table whose two directions are inverse and whose slots are those of the ring. -/
structure WellFormed (table : RingTable κ α) : Prop where
  cursor : table.next < table.size
  injective : Set.InjOn table.slot (Set.Iio table.size)
  inverse : ∀ key place, table.forward key = some place ↔ table.reverse place = some key
  ranged : ∀ key place, table.forward key = some place → ∃ i < table.size, place = table.slot i

variable {table : RingTable κ α} {next size position : Nat} {key : κ}

theorem advance_lt (below : next < size) : advance next size < size := by
  unfold advance
  split <;> omega

theorem lookup_hit {place : α} (found : table.forward key = some place) :
    table.lookup key = (place, table) := by
  unfold lookup
  rw [found]

theorem lookup_miss (absent : table.forward key = none) :
    table.lookup key = (table.slot table.next, table.allocate key) := by
  unfold lookup
  rw [absent]

omit [DecidableEq α] in
theorem WellFormed.evict_eq_some (formed : table.WellFormed) (place : α) (key : κ) (held : α) :
    table.evict place key = some held ↔ table.forward key = some held ∧ held ≠ place := by
  unfold evict
  cases occupied : table.reverse place with
  | none =>
    refine ⟨fun found => ⟨found, fun same => ?_⟩, fun found => found.1⟩
    rw [same, formed.inverse key place, occupied] at found
    contradiction
  | some old =>
    have owner := (formed.inverse old place).mpr occupied
    dsimp only
    by_cases same : key = old
    · subst same
      rw [update_self, owner]
      simp only [Option.some.injEq, reduceCtorEq, false_iff]
      rintro ⟨equal, different⟩
      exact different equal.symm
    · rw [update_of_ne same]
      refine ⟨fun found => ⟨found, fun equal => same ?_⟩, fun found => found.1⟩
      rw [equal, formed.inverse key place, occupied] at found
      exact (Option.some.inj found).symm

theorem WellFormed.allocate (formed : table.WellFormed)
    (absent : table.forward key = none) : (table.allocate key).WellFormed where
  cursor := advance_lt formed.cursor
  injective := formed.injective
  inverse other place := by
    have unheld : ∀ place, table.reverse place ≠ some key := by
      intro place held
      rw [← formed.inverse key place, absent] at held
      contradiction
    unfold RingTable.allocate
    dsimp only
    by_cases same : other = key
    · subst same
      rw [update_self]
      by_cases here : place = table.slot table.next
      · rw [here]
        simp
      · rw [update_of_ne here]
        simp only [Option.some.injEq, unheld place, iff_false]
        exact fun equal => here equal.symm
    · rw [update_of_ne same, formed.evict_eq_some]
      by_cases here : place = table.slot table.next
      · rw [here, update_self]
        simp only [ne_eq, not_true_eq_false, and_false, Option.some.injEq, false_iff]
        exact fun equal => same equal.symm
      · rw [update_of_ne here, formed.inverse other place]
        exact ⟨fun both => both.1, fun held => ⟨held, here⟩⟩
  ranged other place found := by
    by_cases same : other = key
    · subst same
      have given : table.slot table.next = place := by
        simpa [RingTable.allocate] using found
      exact ⟨table.next, formed.cursor, given.symm⟩
    · have kept : table.evict (table.slot table.next) other = some place := by
        simpa [RingTable.allocate, same] using found
      exact formed.ranged other place ((formed.evict_eq_some _ _ _).mp kept).1

theorem WellFormed.lookup (formed : table.WellFormed) (key : κ) :
    (table.lookup key).2.WellFormed := by
  cases found : table.forward key with
  | some place =>
    rw [lookup_hit found]
    exact formed
  | none =>
    rw [lookup_miss found]
    exact formed.allocate found

theorem WellFormed.run (keys : List κ) {table : RingTable κ α} (formed : table.WellFormed) :
    (table.run keys).WellFormed := by
  induction keys generalizing table with
  | nil =>
    exact formed
  | cons key keys ih =>
    exact ih (formed.lookup key)

theorem WellFormed.lookup_slot (formed : table.WellFormed) (key : κ) :
    ∃ i < table.size, (table.lookup key).1 = table.slot i ∧
      (table.lookup key).2.reverse (table.slot i) = some key := by
  cases found : table.forward key with
  | some place =>
    have ⟨i, below, same⟩ := formed.ranged key place found
    have held := (formed.inverse key place).mp found
    rw [lookup_hit found]
    rw [same] at held ⊢
    exact ⟨i, below, rfl, held⟩
  | none =>
    rw [lookup_miss found]
    exact ⟨table.next, formed.cursor, rfl, update_self ..⟩

/-! ## Survival -/

section

variable (cursor : next < size)

include cursor

theorem slack_advance (below : position < size) (different : position ≠ next) :
    slack next size position = slack (advance next size) size position + 1 := by
  unfold slack advance
  split <;> split <;> split <;> omega

theorem slack_taken : slack (advance next size) size next = size - 1 := by
  unfold slack advance
  split <;> split <;> omega

theorem slack_eq_zero : slack next size position = 0 ↔ position = next := by
  unfold slack
  split <;> omega

theorem slack_ahead (below : position < size) (ahead : 0 < slack next size position) :
    position ≠ next ∧ slack next size position = slack (advance next size) size position + 1 := by
  have different := mt (slack_eq_zero cursor).mpr (Nat.ne_of_gt ahead)
  exact ⟨different, slack_advance cursor below different⟩

theorem slack_eq_last (below : position < size) :
    slack next size position = size - 1 ↔ position = (next + size - 1) % size := by
  have last : (next + size - 1) % size = if next = 0 then size - 1 else next - 1 := by
    split
    · rename_i first
      subst first
      rw [Nat.zero_add, Nat.mod_eq_of_lt (by omega)]
    · have wrapped : next + size - 1 = next - 1 + size := by omega
      rw [wrapped, Nat.add_mod_right, Nat.mod_eq_of_lt (by omega)]
  rw [last]
  unfold slack
  split <;> split <;> omega

end

theorem slack_lt (below : position < size) : slack next size position < size := by
  unfold slack
  split <;> omega

theorem WellFormed.reverse_allocate (formed : table.WellFormed) (key : κ)
    (below : position < table.size) (different : position ≠ table.next) :
    (table.allocate key).reverse (table.slot position) = table.reverse (table.slot position) := by
  apply update_of_ne
  intro same
  exact different (formed.injective below formed.cursor same)

theorem WellFormed.reverse_run (keys : List κ) {table : RingTable κ α} {position : Nat} {key : κ}
    (formed : table.WellFormed) (below : position < table.size)
    (held : table.reverse (table.slot position) = some key)
    (few : table.allocations keys ≤ slack table.next table.size position) :
    (table.run keys).reverse (table.slot position) = some key := by
  induction keys generalizing table position key with
  | nil =>
    exact held
  | cons new keys ih =>
    unfold RingTable.run
    unfold allocations at few
    cases found : table.forward new with
    | some place =>
      rw [lookup_hit found] at few ⊢
      exact ih formed below held (Nat.le_of_add_left_le few)
    | none =>
      rw [lookup_miss found] at few ⊢
      rw [found, if_pos rfl] at few
      have ⟨different, closer⟩ := slack_ahead formed.cursor below (by omega)
      refine ih (formed.allocate found) below ?_ ?_
      · exact (formed.reverse_allocate new below different).trans held
      · change _ ≤ slack (advance table.next table.size) table.size position
        omega

omit [DecidableEq κ] [DecidableEq α] in
theorem WellFormed.exists_absent [Infinite κ] (formed : table.WellFormed) :
    ∃ key, table.forward key = none := by
  by_contra all
  have assigned : ∀ key, ∃ i : Fin table.size, table.forward key = some (table.slot i) := by
    intro key
    cases found : table.forward key with
    | none => exact absurd ⟨key, found⟩ all
    | some place =>
      have ⟨i, below, same⟩ := formed.ranged key place found
      exact ⟨⟨i, below⟩, by rw [same]⟩
  choose position found using assigned
  have distinct : Function.Injective position := by
    intro left right same
    have leftHeld := (formed.inverse left _).mp (found left)
    have rightHeld := (formed.inverse right _).mp (found right)
    rw [same, rightHeld] at leftHeld
    exact (Option.some.inj leftHeld).symm
  exact not_injective_infinite_finite position distinct

theorem WellFormed.exists_evicting [Infinite κ] (remaining : Nat) :
    ∀ {table : RingTable κ α} {position : Nat} {key : κ}, table.WellFormed →
      position < table.size → table.forward key = some (table.slot position) →
      slack table.next table.size position = remaining →
      ∃ keys, table.allocations keys = remaining + 1 ∧
        (table.run keys).reverse (table.slot position) ≠ some key := by
  induction remaining with
  | zero =>
    intro table position key formed below held none
    have ⟨new, absent⟩ := formed.exists_absent
    have here := (slack_eq_zero formed.cursor).mp none
    refine ⟨[new], ?_, ?_⟩
    · unfold allocations allocations
      rw [if_pos absent]
    · unfold RingTable.run RingTable.run
      rw [lookup_miss absent, here]
      change Function.update _ _ _ _ ≠ _
      rw [update_self]
      intro same
      have equal := Option.some.inj same
      rw [equal, held] at absent
      contradiction
  | succ remaining ih =>
    intro table position key formed below held distance
    have ⟨new, absent⟩ := formed.exists_absent
    have ⟨different, closer⟩ := slack_ahead formed.cursor below (by omega)
    have formedNext := formed.allocate absent
    have kept : (table.allocate new).forward key = some ((table.allocate new).slot position) := by
      rw [formedNext.inverse]
      exact (formed.reverse_allocate new below different).trans
        ((formed.inverse key _).mp held)
    have ⟨keys, counted, evicted⟩ := ih formedNext below kept (by
      change slack (advance table.next table.size) table.size position = remaining
      omega)
    refine ⟨new :: keys, ?_, ?_⟩
    · unfold allocations
      rw [if_pos absent, lookup_miss absent, counted, Nat.add_comm]
    · unfold RingTable.run
      rw [lookup_miss absent]
      exact evicted

/-- The slot of a key stays its own through every run of fewer allocations than there are slots. -/
def Retains (table : RingTable κ α) (key : κ) : Prop :=
  ∀ keys, (table.lookup key).2.allocations keys < table.size →
    ((table.lookup key).2.run keys).reverse (table.lookup key).1 = some key

theorem WellFormed.retains_iff [Infinite κ] (formed : table.WellFormed) (key : κ) :
    table.Retains key ↔ table.forward key = none ∨
      table.forward key = some (table.slot ((table.next + table.size - 1) % table.size)) := by
  have following := formed.lookup key
  have cursor := formed.cursor
  cases found : table.forward key with
  | none =>
    simp only [true_or, iff_true]
    intro keys few
    rw [lookup_miss found] at following few ⊢
    have most : slack (advance table.next table.size) table.size table.next = table.size - 1 :=
      slack_taken cursor
    refine WellFormed.reverse_run keys following cursor (update_self ..) ?_
    change _ ≤ slack (advance table.next table.size) table.size table.next
    omega
  | some place =>
    have ⟨i, below, same⟩ := formed.ranged key place found
    subst same
    have held := (formed.inverse key _).mp found
    have last := slack_eq_last cursor below
    have bound : slack table.next table.size i < table.size := slack_lt below
    unfold Retains
    rw [lookup_hit found]
    simp only [reduceCtorEq, false_or, Option.some.injEq]
    constructor
    · intro retains
      have most : slack table.next table.size i = table.size - 1 := by
        by_contra early
        have ⟨keys, counted, evicted⟩ := formed.exists_evicting _ below found rfl
        exact evicted (retains keys (by omega))
      rw [last.mp most]
    · intro recent keys few
      have position := formed.injective below
        (show (table.next + table.size - 1) % table.size < table.size from
          Nat.mod_lt _ (by omega)) recent
      exact formed.reverse_run keys below held (by omega)

end RingTable

end Shuttle.Lib
