import Mathlib.Logic.Function.Basic

/-!
# Leases and a directory of their holders

Holders lease resources and list themselves in a directory under the resource they hold. When a
resource is leased only while nobody holds it, and a holder leaves the directory before it gives the
resource back, nobody shares a resource and the directory names the listed holder of every resource,
in whatever order the steps are taken.
-/

namespace Shuttle.Lib

open Function

/-- Holders with their resources, and a directory of those that are listed. -/
structure Leases (ι ρ : Type) where
  holds : ι → Option ρ
  listed : ι → Bool
  entries : ρ → Option ι

namespace Leases

variable {ι ρ : Type} {leases : Leases ι ρ} {holder : ι} {resource : ρ}

/-- Nobody shares a resource, and the directory has exactly the listed holders. -/
structure Sound (leases : Leases ι ρ) : Prop where
  unique : ∀ {left right : ι} {resource : ρ}, leases.holds left = some resource →
    leases.holds right = some resource → left = right
  exact : ∀ (resource : ρ) (holder : ι), leases.entries resource = some holder ↔
    leases.holds holder = some resource ∧ leases.listed holder = true

theorem Sound.entries_ne (sound : leases.Sound) (held : leases.holds holder = some resource)
    {other : ρ} (apart : other ≠ resource) : leases.entries other ≠ some holder := by
  intro listed
  have ⟨holds, _⟩ := (sound.exact other holder).mp listed
  exact apart (Option.some.inj (holds.symm.trans held))

variable [DecidableEq ι]

def acquire (leases : Leases ι ρ) (holder : ι) (resource : ρ) : Leases ι ρ :=
  { leases with holds := Function.update leases.holds holder (some resource) }

def publish [DecidableEq ρ] (leases : Leases ι ρ) (holder : ι) (resource : ρ) : Leases ι ρ :=
  { leases with
    listed := Function.update leases.listed holder true
    entries := Function.update leases.entries resource (some holder) }

def withdraw [DecidableEq ρ] (leases : Leases ι ρ) (holder : ι) (resource : ρ) : Leases ι ρ :=
  { leases with
    listed := Function.update leases.listed holder false
    entries := Function.update leases.entries resource none }

def release (leases : Leases ι ρ) (holder : ι) : Leases ι ρ :=
  { leases with holds := Function.update leases.holds holder none }

theorem Sound.acquire (sound : leases.Sound) (unlisted : leases.listed holder = false)
    (free : ∀ other, leases.holds other ≠ some resource) :
    (leases.acquire holder resource).Sound where
  unique := by
    intro left right shared leftHolds rightHolds
    dsimp only [Leases.acquire] at leftHolds rightHolds
    rw [update_apply] at leftHolds rightHolds
    split at leftHolds <;> rename_i leftHolder
    · split at rightHolds <;> rename_i rightHolder
      · rw [leftHolder, rightHolder]
      · rw [← leftHolds] at rightHolds
        exact absurd rightHolds (free right)
    · split at rightHolds
      · rw [← rightHolds] at leftHolds
        exact absurd leftHolds (free left)
      · exact sound.unique leftHolds rightHolds
  exact := by
    intro other named
    dsimp only [Leases.acquire]
    rw [update_apply, sound.exact]
    split <;> rename_i same
    · rw [same, unlisted]
      simp
    · rfl

theorem Sound.mark [DecidableEq ρ] (sound : leases.Sound)
    (held : leases.holds holder = some resource) (present : Bool) :
    Sound { leases with
      listed := update leases.listed holder present
      entries := update leases.entries resource (if present then some holder else none) } where
  unique := sound.unique
  exact := by
    intro other named
    dsimp only
    rw [update_apply, update_apply]
    by_cases same : named = holder
    · rw [same, held]
      split <;> rename_i entry
      · cases present <;> simp [entry]
      · simp [sound.entries_ne held entry, Ne.symm entry]
    · split <;> rename_i entry
      · rw [entry]
        refine iff_of_false ?_ fun ⟨holds, _⟩ => same (sound.unique holds held)
        cases present
        · nofun
        · exact fun listed => same (Option.some.inj listed).symm
      · exact sound.exact other named

theorem Sound.publish [DecidableEq ρ] (sound : leases.Sound)
    (held : leases.holds holder = some resource) : (leases.publish holder resource).Sound :=
  sound.mark held true

theorem Sound.withdraw [DecidableEq ρ] (sound : leases.Sound)
    (held : leases.holds holder = some resource) : (leases.withdraw holder resource).Sound :=
  sound.mark held false

theorem Sound.release (sound : leases.Sound) (unlisted : leases.listed holder = false) :
    (leases.release holder).Sound where
  unique := by
    intro left right shared leftHolds rightHolds
    dsimp only [Leases.release] at leftHolds rightHolds
    rw [update_apply] at leftHolds rightHolds
    split at leftHolds
    · cases leftHolds
    · split at rightHolds
      · cases rightHolds
      · exact sound.unique leftHolds rightHolds
  exact := by
    intro other named
    dsimp only [Leases.release]
    rw [update_apply, sound.exact]
    split <;> rename_i same
    · rw [same, unlisted]
      simp
    · rfl

end Leases

end Shuttle.Lib
