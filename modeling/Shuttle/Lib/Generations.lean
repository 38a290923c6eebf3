import Mathlib.Tactic.Common

/-!
# Two generations of remembered values

A memory of two generations: values enter the current one, and a rotation retires the
current generation to previous and forgets the old previous one. A value lasts through the
first rotation after it was recorded and through no second one. Both facts are counted in
rotations still to come, so one step of any run consumes exactly what it rotates.
-/

namespace Shuttle.Lib

/-- Values recorded since the last rotation, and in the generation before. -/
structure Generations (α : Type) where
  current : α → Prop
  previous : α → Prop

namespace Generations

variable {α : Type}

def empty : Generations α := ⟨fun _ => False, fun _ => False⟩

variable (memory : Generations α)

def rotate (rotates : Bool) : Generations α :=
  if rotates then ⟨fun _ => False, memory.current⟩ else memory

variable (value : α)

def record : Generations α :=
  { memory with current := fun other => other = value ∨ memory.current other }

def Remembers : Prop :=
  memory.current value ∨ memory.previous value

def Lasts (rotations : Nat) : Prop :=
  (memory.current value ∧ rotations ≤ 1) ∨ (memory.previous value ∧ rotations = 0)

def Fades (rotations : Nat) : Prop :=
  (memory.current value → 2 ≤ rotations) ∧ (memory.previous value → 1 ≤ rotations)

variable {memory : Generations α} {value : α} {rotations : Nat} {rotates : Bool}

theorem Lasts.remembers (lasts : memory.Lasts value rotations) : memory.Remembers value := by
  rcases lasts with ⟨recorded, _⟩ | ⟨recorded, _⟩
  · exact .inl recorded
  · exact .inr recorded

theorem Lasts.rotate (lasts : memory.Lasts value (rotates.toNat + rotations)) :
    (memory.rotate rotates).Lasts value rotations := by
  cases rotates with
  | false =>
    rw [Bool.toNat_false, Nat.zero_add] at lasts
    exact lasts
  | true =>
    rw [Bool.toNat_true] at lasts
    rcases lasts with ⟨recorded, few⟩ | ⟨_, none⟩
    · exact .inr ⟨recorded, by omega⟩
    · omega

theorem Lasts.record (other : α)
    (lasts : memory.Lasts value rotations) : (memory.record other).Lasts value rotations := by
  rcases lasts with ⟨recorded, few⟩ | ⟨recorded, none⟩
  · exact .inl ⟨.inr recorded, few⟩
  · exact .inr ⟨recorded, none⟩

theorem lasts_record (memory : Generations α) (value : α)
    (few : rotations ≤ 1) : (memory.record value).Lasts value rotations :=
  .inl ⟨.inl rfl, few⟩

theorem lasts_zero_iff : memory.Lasts value 0 ↔ memory.Remembers value := by
  refine ⟨Lasts.remembers, fun remembers => ?_⟩
  rcases remembers with recorded | recorded
  · exact .inl ⟨recorded, Nat.zero_le 1⟩
  · exact .inr ⟨recorded, rfl⟩

theorem lasts_rotate_iff :
    (memory.rotate rotates).Lasts value rotations ↔
      memory.Lasts value (rotates.toNat + rotations) := by
  refine ⟨fun lasts => ?_, Lasts.rotate⟩
  cases rotates with
  | false =>
    rw [Bool.toNat_false, Nat.zero_add]
    exact lasts
  | true =>
    rw [Bool.toNat_true]
    rcases lasts with ⟨impossible, _⟩ | ⟨recorded, none⟩
    · exact impossible.elim
    · exact .inl ⟨recorded, by omega⟩

theorem lasts_record_iff {other : α} :
    (memory.record other).Lasts value rotations ↔
      (value = other ∧ rotations ≤ 1) ∨ memory.Lasts value rotations := by
  refine ⟨fun lasts => ?_, fun recorded => ?_⟩
  · rcases lasts with ⟨same | recorded, few⟩ | ⟨recorded, none⟩
    · exact .inl ⟨same, few⟩
    · exact .inr (.inl ⟨recorded, few⟩)
    · exact .inr (.inr ⟨recorded, none⟩)
  · rcases recorded with ⟨rfl, few⟩ | lasts
    · exact memory.lasts_record value few
    · exact lasts.record other

theorem empty_forgotten : ¬(empty : Generations α).Remembers value := by
  rintro (recorded | recorded) <;> exact recorded

theorem Fades.forgotten (fades : memory.Fades value 0) : ¬memory.Remembers value := by
  rintro (recorded | recorded)
  · have := fades.1 recorded
    omega
  · have := fades.2 recorded
    omega

theorem Fades.rotate (fades : memory.Fades value (rotates.toNat + rotations)) :
    (memory.rotate rotates).Fades value rotations := by
  cases rotates with
  | false =>
    rw [Bool.toNat_false, Nat.zero_add] at fades
    exact fades
  | true =>
    rw [Bool.toNat_true] at fades
    refine ⟨fun recorded => absurd recorded (fun impossible => impossible), fun recorded => ?_⟩
    have := fades.1 recorded
    omega

theorem Fades.record {other : α}
    (fades : memory.Fades value rotations) (different : value ≠ other) :
    (memory.record other).Fades value rotations := by
  refine ⟨fun recorded => ?_, fades.2⟩
  rcases recorded with same | recorded
  · exact absurd same different
  · exact fades.1 recorded

theorem fades_record (absent : ¬memory.Remembers value) (many : 2 ≤ rotations) :
    (memory.record value).Fades value rotations := by
  refine ⟨fun _ => many, fun recorded => ?_⟩
  exact absurd (.inr recorded) absent

theorem fades_of_forgotten
    (absent : ¬memory.Remembers value) (rotations : Nat) : memory.Fades value rotations :=
  ⟨fun recorded => absurd (.inl recorded) absent,
    fun recorded => absurd (.inr recorded) absent⟩

end Generations

end Shuttle.Lib
