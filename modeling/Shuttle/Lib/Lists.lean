import Mathlib.Algebra.GroupWithZero.Nat
import Mathlib.Data.List.Basic
import Mathlib.Logic.Function.Basic

/-!
# Tables kept as lists

A table is a list whose positions are the numbers of its entries, or a list of keys with values. The
lemmas here say what is in a table after an entry was set, appended, changed or removed.
-/

namespace Shuttle.Lib

open List

variable {α : Type}

/-! ## Numbered entries -/

section Numbered

variable {table : List α} {index place : Nat} {old new entry other : α}

/-- An entry of a table is the one that is overwritten, or is still there. -/
theorem eq_or_mem_set (found : table[index]? = some old) (listed : other ∈ table) :
    other = old ∨ other ∈ table.set index new := by
  have ⟨place, present⟩ := mem_iff_getElem?.mp listed
  by_cases own : index = place
  · subst own
    exact .inl (Option.some.inj (present.symm.trans found))
  · refine .inr (mem_iff_getElem?.mpr ⟨place, ?_⟩)
    rw [List.getElem?_set_ne own, present]

/-- What stands at a place after an entry was set. -/
theorem getElem?_set_cases (present : (table.set index new)[place]? = some entry) :
    (place = index ∧ entry = new) ∨ (place ≠ index ∧ table[place]? = some entry) := by
  rw [List.getElem?_set] at present
  split at present
  · rename_i own
    split at present
    · exact .inl ⟨own.symm, (Option.some.inj present).symm⟩
    · cases present
  · rename_i apart
    exact .inr ⟨Ne.symm apart, present⟩

/-- What stands at a place after an entry was appended. -/
theorem getElem?_append_cases (present : (table ++ [new])[place]? = some entry) :
    (place = table.length ∧ entry = new) ∨ (place ≠ table.length ∧ table[place]? = some entry) := by
  rw [List.getElem?_append] at present
  split at present
  · rename_i below
    exact .inr ⟨Nat.ne_of_lt below, present⟩
  · have inside := (List.getElem?_eq_some_iff.mp present).1
    rw [length_singleton] at inside
    exact .inl ⟨by omega, mem_singleton.mp (mem_of_getElem? present)⟩

/-- Setting an entry changes a sum over the table by the difference of the entries. -/
theorem sum_map_set (measure : α → Nat) (found : table[index]? = some old) :
    ((table.set index new).map measure).sum + measure old =
      (table.map measure).sum + measure new := by
  induction table generalizing index with
  | nil => cases found
  | cons head table ih =>
    cases index with
    | zero =>
      cases found
      rw [set_cons_zero, map_cons, sum_cons, map_cons, sum_cons]
      omega
    | succ index =>
      have rest := ih found
      rw [set_cons_succ, map_cons, sum_cons, map_cons, sum_cons]
      omega

/-- What all entries and the new one have, all have after it is set. -/
theorem forall_mem_set {property : α → Prop}
    (all : ∀ x ∈ table, property x) (holds : property new) (index : Nat) :
    ∀ x ∈ table.set index new, property x := by
  intro x present
  rcases mem_or_eq_of_mem_set present with older | same
  · exact all x older
  · exact same ▸ holds

variable {change : α → α} {property : α → Prop}

/-- An entry of a changed table comes from one that had the property before. -/
theorem exists_of_mapped {changed : List α} (mapped : changed[place]? = table[place]?.map change)
    (back : ∀ entry, property (change entry) → property entry) :
    (∃ entry, changed[place]? = some entry ∧ property entry) →
      ∃ entry, table[place]? = some entry ∧ property entry := by
  intro ⟨entry, found, still⟩
  have ⟨old, held, same⟩ := Option.map_eq_some_iff.mp (mapped.symm.trans found)
  exact ⟨old, held, back old (same ▸ still)⟩

/-- After a change that takes the property away only the other places have it. -/
theorem exists_modify_iff (shut : ∀ entry, ¬property (change entry)) :
    (∃ entry, (table.modify index change)[place]? = some entry ∧ property entry) ↔
      (∃ entry, table[place]? = some entry ∧ property entry) ∧ place ≠ index := by
  by_cases same : index = place
  · simp [same, shut]
  · simp [same, Ne.symm same]

/-- After an entry was appended, the last place has its property. -/
theorem exists_append_iff :
    (∃ entry, (table ++ [new])[place]? = some entry ∧ property entry) ↔
      (∃ entry, table[place]? = some entry ∧ property entry) ∨
        property new ∧ place = table.length := by
  constructor
  · intro ⟨entry, found, still⟩
    rcases getElem?_append_cases found with ⟨last, rfl⟩ | ⟨_, held⟩
    · exact .inr ⟨still, last⟩
    · exact .inl ⟨entry, held, still⟩
  · rintro (⟨entry, held, still⟩ | ⟨still, rfl⟩)
    · have inside := (List.getElem?_eq_some_iff.mp held).1
      exact ⟨entry, by rw [List.getElem?_append_left inside, held], still⟩
    · exact ⟨new, List.getElem?_concat_length, still⟩

end Numbered

/-- Two tests that agree on a list find the same in it. -/
theorem find_congr {test other : α → Bool} {list : List α}
    (same : ∀ x ∈ list, test x = other x) : list.find? test = list.find? other := by
  rw [← head?_filter, ← head?_filter, filter_congr same]

/-- Every entry of the first table stands at its place in the second. -/
def Kept (before after : List α) : Prop :=
  ∀ (i : Nat) (x : α), before[i]? = some x → after[i]? = some x

theorem Kept.refl (list : List α) : Kept list list := fun _ _ found => found

theorem Kept.trans {first second third : List α} (kept : Kept first second)
    (later : Kept second third) : Kept first third :=
  fun i x found => later i x (kept i x found)

theorem Kept.append (list more : List α) : Kept list (list ++ more) := by
  intro i x found
  rw [List.getElem?_append_left (List.getElem?_eq_some_iff.mp found).1, found]

/-- A property of what was found is one of the value that is known. -/
theorem exists_some_iff {found : Option α} {value : α} (same : found = some value)
    {asked : α → Prop} : (∃ other, found = some other ∧ asked other) ↔ asked value :=
  ⟨fun ⟨_, again, holds⟩ => Option.some.inj (again.symm.trans same) ▸ holds,
    fun holds => ⟨value, same, holds⟩⟩

/-- What holds of all values holds of them after one is updated to another that has it. -/
theorem forall_update {ι : Type} [DecidableEq ι] (property : ι → α → Prop) {values : ι → α}
    {index : ι} {value : α} (before : ∀ other, property other (values other))
    (updated : property index value) :
    ∀ other, property other (Function.update values index value other) := by
  intro other
  by_cases same : other = index
  · subst same
    rw [Function.update_self]
    exact updated
  · rw [Function.update_of_ne same]
    exact before other

/-! ## Entries with keys -/

section Keyed

variable {κ : Type} [BEq κ] [LawfulBEq κ]

/-- A key whose entries are removed is not found, and the others are found as before. -/
theorem lookup_filter_ne [DecidableEq κ] (key other : κ) (entries : List (κ × α)) :
    (entries.filter fun entry => entry.1 ≠ key).lookup other =
      if other = key then none else entries.lookup other := by
  induction entries with
  | nil => split <;> rfl
  | cons entry entries ih =>
    by_cases same : entry.1 = key
    · rw [filter_cons_of_neg (by simp [same]), ih]
      split
      · rfl
      · rename_i differs
        have skipped : (other == entry.1) = false := beq_false_of_ne (same ▸ differs)
        rw [lookup_cons, skipped]
    · rw [filter_cons_of_pos (by simp [same]), lookup_cons, lookup_cons, ih]
      by_cases found : other = entry.1
      · rw [found, BEq.rfl]
        exact (if_neg same).symm
      · rw [beq_false_of_ne found]

/-- Changing values by their keys changes what is found. -/
theorem lookup_map_value (change : κ → α → α) (key : κ) (entries : List (κ × α)) :
    (entries.map fun entry => (entry.1, change entry.1 entry.2)).lookup key =
      (entries.lookup key).map (change key) := by
  induction entries with
  | nil => rfl
  | cons entry entries ih =>
    rw [map_cons, lookup_cons, lookup_cons, ih]
    by_cases found : key = entry.1
    · rw [found, BEq.rfl]
      rfl
    · rw [beq_false_of_ne found]

end Keyed

/-! ## Pieces of a text -/

/-- Pieces make up the front of a text exactly if each stands behind those before it. -/
theorem flatten_prefix_iff (pieces : List (List α)) {whole : List α} :
    pieces.flatten <+: whole ↔ ∀ before piece after, pieces = before ++ piece :: after →
      (whole.drop before.flatten.length).take piece.length = piece := by
  induction pieces generalizing whole with
  | nil =>
    refine iff_of_true List.nil_prefix fun before piece after split => ?_
    exact absurd split.symm (append_ne_nil_of_right_ne_nil _ (cons_ne_nil _ _))
  | cons first pieces ih =>
    rw [flatten_cons]
    constructor
    · intro ⟨rest, split⟩ before piece after pieceSplit
      rw [append_assoc] at split
      cases before with
      | nil =>
        cases pieceSplit
        rw [← split]
        exact take_left
      | cons head before =>
        have ⟨same, tail⟩ := List.cons.inj pieceSplit
        have inner := ih.mp ⟨rest, rfl⟩ before piece after tail
        rw [← split, ← same, flatten_cons, length_append, ← drop_drop, drop_left]
        exact inner
    · intro all
      have front := all [] first pieces rfl
      have split : whole = first ++ whole.drop first.length := by
        conv => lhs; rw [← take_append_drop first.length whole]
        rw [flatten_nil, length_nil, drop_zero] at front
        rw [front]
      rw [split, prefix_append_right_inj, ih]
      intro before piece after pieceSplit
      have outer := all (first :: before) piece after (by rw [pieceSplit, cons_append])
      rw [flatten_cons, length_append, ← drop_drop] at outer
      exact outer

/-- A value kept on a condition is what was found, if nothing else can be found. -/
theorem ite_some_eq_iff {hits : Bool} {value : α} {found : Option α}
    (only : ∀ other, found = some other → other = value) :
    (if hits = true then some value else none) = found ↔ (hits = true ↔ found.isSome = true) := by
  cases found with
  | none => cases hits <;> simp
  | some other =>
    cases only other rfl
    cases hits <;> simp

end Shuttle.Lib
