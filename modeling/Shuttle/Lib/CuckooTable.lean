import Mathlib.Data.Fintype.Prod

/-!
# Tables with two homes for each fingerprint

A table has buckets of slots; the zero fingerprint marks an empty slot. Every fingerprint has two
homes, a bucket and its partner. An insertion carries one fingerprint in hand while it displaces
others. The invariant is that every recorded fingerprint is sheltered: stored in one of its homes,
or in hand on the way to one. Filling an empty slot and displacing an occupied one both keep it.
-/

namespace Shuttle.Lib.CuckooTable

variable {ι φ : Type} {width : Nat}

abbrev Table (ι φ : Type) (width : Nat) := ι → Fin width → φ

section Writes

variable [DecidableEq ι]

variable (table : Table ι φ width)

def put (home : ι) (slot : Fin width) (print : φ) : Table ι φ width :=
  Function.update table home (Function.update (table home) slot print)

@[simp]
theorem put_same (home : ι) (slot : Fin width) (print : φ) :
    put table home slot print home slot = print := by
  simp [put]

theorem put_other {home other : ι} {slot place : Fin width} (print : φ)
    (distinct : ¬(other = home ∧ place = slot)) :
    put table home slot print other place = table other place := by
  by_cases same : other = home
  · subst same
    have moved : place ≠ slot := fun equal => distinct ⟨rfl, equal⟩
    simp [put, Function.update_of_ne moved]
  · simp [put, Function.update_of_ne same]

end Writes

def Holds (table : Table ι φ width) (home : ι) (print : φ) : Prop :=
  ∃ slot, table home slot = print

instance [DecidableEq φ] (table : Table ι φ width) (home : ι) (print : φ) :
    Decidable (Holds table home print) :=
  inferInstanceAs (Decidable (∃ slot, table home slot = print))

def Full [Zero φ] (table : Table ι φ width) (home : ι) : Prop := ∀ slot, table home slot ≠ 0

def Sheltered (partner : ι → φ → ι) (table : Table ι φ width) (hand : Option (ι × φ)) (home : ι)
    (print : φ) : Prop :=
  Holds table home print ∨ Holds table (partner home print) print ∨
    hand = some (home, print) ∨ hand = some (partner home print, print)

section Moves

variable [DecidableEq ι]

theorem holds_put (table : Table ι φ width) (home : ι) (slot : Fin width) (print : φ) :
    Holds (put table home slot print) home print :=
  ⟨slot, put_same table home slot print⟩

variable {table : Table ι φ width} {home : ι} {print : φ}

theorem holds_put_or (other : ι)
    (slot : Fin width) (written : φ) (stored : Holds table home print) :
    Holds (put table other slot written) home print ∨
      (home = other ∧ table other slot = print) := by
  obtain ⟨place, found⟩ := stored
  by_cases hit : home = other ∧ place = slot
  · obtain ⟨rfl, rfl⟩ := hit
    exact .inr ⟨rfl, found⟩
  · exact .inl ⟨place, by rw [put_other table written hit]; exact found⟩

variable {partner : ι → φ → ι} {target : ι} {carried : φ}

theorem sheltered_put (slot : Fin width) (hand : Option (ι × φ))
    (sheltered : Sheltered partner table (some (target, carried)) home print) :
    Sheltered partner (put table target slot carried) hand home print ∨
      (home = target ∨ partner home print = target) ∧ table target slot = print := by
  rcases sheltered with stored | stored | held | held
  · rcases holds_put_or target slot carried stored with kept | lost
    · exact .inl (.inl kept)
    · exact .inr ⟨.inl lost.1, lost.2⟩
  · rcases holds_put_or target slot carried stored with kept | lost
    · exact .inl (.inr (.inl kept))
    · exact .inr ⟨.inr lost.1, lost.2⟩
  · obtain ⟨rfl, rfl⟩ := Prod.mk.inj (Option.some.inj held)
    exact .inl (.inl (holds_put table _ slot _))
  · obtain ⟨rfl, rfl⟩ := Prod.mk.inj (Option.some.inj held)
    exact .inl (.inr (.inl (holds_put table _ slot _)))

theorem sheltered_fill [Zero φ] {slot : Fin width} (empty : table target slot = 0)
    (nonzero : print ≠ 0)
    (sheltered : Sheltered partner table (some (target, carried)) home print) :
    Sheltered partner (put table target slot carried) none home print := by
  rcases sheltered_put slot none sheltered with kept | ⟨_, lost⟩
  · exact kept
  · exact absurd (empty.symm.trans lost) nonzero.symm

theorem sheltered_displace (slot : Fin width) (returns : partner (partner home print) print = home)
    (sheltered : Sheltered partner table (some (target, carried)) home print) :
    Sheltered partner (put table target slot carried)
      (some (partner target (table target slot), table target slot)) home print := by
  rcases sheltered_put slot _ sheltered with kept | ⟨rfl | rfl, found⟩
  · exact kept
  · rw [found]
    exact .inr (.inr (.inr rfl))
  · rw [found, returns]
    exact .inr (.inr (.inl rfl))

end Moves

theorem Sheltered.carry {partner : ι → φ → ι} {table : Table ι φ width} {home : ι} {print : φ}
    (hand : Option (ι × φ)) (sheltered : Sheltered partner table none home print) :
    Sheltered partner table hand home print := by
  rcases sheltered with stored | stored | absent | absent
  · exact .inl stored
  · exact .inr (.inl stored)
  · contradiction
  · contradiction

theorem sheltered_none_iff {partner : ι → φ → ι} {table : Table ι φ width} {home : ι} {print : φ} :
    Sheltered partner table none home print ↔
      Holds table home print ∨ Holds table (partner home print) print := by
  simp [Sheltered]

section Count

variable [DecidableEq φ] [Zero φ]

/-- Number of occupied slots in the buckets of an index set. -/
def occupied (table : Table ι φ width) (homes : Finset ι) : Nat :=
  ((homes ×ˢ Finset.univ).filter fun place : ι × Fin width => table place.1 place.2 ≠ 0).card

theorem occupied_fill [DecidableEq ι] {table : Table ι φ width} {homes : Finset ι} {home : ι}
    {slot : Fin width} {print : φ} (inside : home ∈ homes) (empty : table home slot = 0)
    (nonzero : print ≠ 0) :
    occupied (put table home slot print) homes = occupied table homes + 1 := by
  have fresh : (home, slot) ∉ (homes ×ˢ Finset.univ).filter
      fun place : ι × Fin width => table place.1 place.2 ≠ 0 := by
    simp [empty]
  rw [occupied, occupied, ← Finset.card_insert_of_notMem fresh]
  congr 1
  ext ⟨other, place⟩
  by_cases hit : other = home ∧ place = slot
  · obtain ⟨rfl, rfl⟩ := hit
    simp [nonzero, inside]
  · have apart : (other, place) ≠ (home, slot) := fun same => hit (Prod.mk.inj same)
    simp [put_other table print hit, apart]

theorem occupied_displace [DecidableEq ι] {table : Table ι φ width} (homes : Finset ι) {home : ι}
    {slot : Fin width} {print : φ} (taken : table home slot ≠ 0) (nonzero : print ≠ 0) :
    occupied (put table home slot print) homes = occupied table homes := by
  rw [occupied]
  congr 1
  ext ⟨other, place⟩
  by_cases hit : other = home ∧ place = slot
  · obtain ⟨rfl, rfl⟩ := hit
    simp [nonzero, taken]
  · simp [put_other table print hit]

theorem occupied_zero (homes : Finset ι) : occupied (fun _ _ => 0 : Table ι φ width) homes = 0 := by
  simp [occupied]

end Count

end Shuttle.Lib.CuckooTable
