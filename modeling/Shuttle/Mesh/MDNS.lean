import Shuttle.Go.Names
import Mathlib.Data.Fintype.Pigeonhole

/-!
# Names with pointers in multicast DNS

`parseDNSName` (`mesh/p2p/mdns.go`) reads a name label by label and follows a compression pointer by
a call of its own, with a map of visited offsets that is new in each call. The offsets of one call
increase anyway, so the map stops nothing. A round leads from a label to the offset behind it and
from a pointer to its target; parsing ends exactly if no offset is reached twice.
-/

namespace Shuttle.MDNS

open Shuttle.Go List Option

/-- The loop of `parseDNSName`: the parts of a name at an offset and the offset behind it, with the
offsets visited and the parts read in this call. None if the rounds of all calls together do not
suffice. -/
def parseParts (data : List UInt8) : Nat → Nat → List Nat → List GoString →
    Option (List GoString × Nat)
  | 0, _, _, _ => none
  | fuel + 1, offset, visited, parts =>
    match data.drop offset with
    | [] => some (parts, offset)
    | length :: rest =>
      if offset ∈ visited then some (parts, offset)
      else if length = 0 then some (parts, offset + 1)
      else if length &&& 0xc0 = 0xc0 then
        match rest with
        | [] => some (parts, offset)
        | low :: _ =>
          (parseParts data fuel ((length &&& 0x3f).toNat * 256 + low.toNat) [] []).map
            fun (inner, _) => (parts ++ [joinByte dot inner], offset + 2)
      else if rest.length < length.toNat then some (parts, offset + 1)
      else parseParts data fuel (offset + 1 + length.toNat) (offset :: visited)
        (parts ++ [rest.take length.toNat])

/-- A name in a packet and the offset behind it; none if it is still read after these rounds. -/
def parseDNSName (data : List UInt8) (fuel offset : Nat) : Option (GoString × Nat) :=
  (parseParts data fuel offset [] []).map fun (parts, offset) => (joinByte dot parts, offset)

/-- The offset of the next round, in the loop or in the call for a pointer, if there is one. -/
def nextRound (data : List UInt8) (offset : Nat) : Option Nat :=
  match data.drop offset with
  | [] => none
  | length :: rest =>
    if length = 0 then none
    else if length &&& 0xc0 = 0xc0 then
      rest.head?.map fun low => (length &&& 0x3f).toNat * 256 + low.toNat
    else if rest.length < length.toNat then none
    else some (offset + 1 + length.toNat)

/-- The offset after a number of rounds; none if there are fewer. -/
def afterRounds (data : List UInt8) : Nat → Nat → Option Nat
  | 0, offset => some offset
  | rounds + 1, offset => (nextRound data offset).bind (afterRounds data rounds)

variable {data : List UInt8} {offset : Nat}

/-- The offsets of a loop increase, so that none of them is visited twice. -/
theorem parseParts_rounds (fuel : Nat) {offset : Nat} {visited : List Nat}
    (parts : List GoString) (passed : ∀ seen ∈ visited, seen < offset) :
    (parseParts data fuel offset visited parts = none ↔ afterRounds data fuel offset ≠ none) ∧
      ∀ found ∈ parseParts data fuel offset visited parts, offset ≤ found.2 := by
  induction fuel generalizing offset visited parts with
  | zero => exact ⟨iff_of_true rfl nofun, nofun⟩
  | succ fuel ih =>
    have unseen : offset ∉ visited := fun seen => Nat.lt_irrefl _ (passed offset seen)
    rw [parseParts, afterRounds, nextRound]
    cases data.drop offset with
    | nil => simp
    | cons length rest =>
      simp only [if_neg unseen]
      split
      · simp
      split
      · cases rest with
        | nil => simp
        | cons low rest =>
          have ⟨ends, _⟩ := @ih ((length &&& 0x3f).toNat * 256 + low.toNat) [] [] nofun
          refine ⟨map_eq_none_iff.trans ends, ?_⟩
          rintro _ found
          obtain ⟨_, _, rfl⟩ := map_eq_some_iff.mp found
          exact Nat.le_add_right _ _
      split
      · simp
      · have ⟨ends, behind⟩ := @ih (offset + 1 + length.toNat) (offset :: visited)
          (parts ++ [rest.take length.toNat]) (forall_mem_cons.mpr ⟨by omega, fun seen listed =>
            (passed seen listed).trans (by omega)⟩)
        exact ⟨ends, fun found parsed => (by omega : offset ≤ _).trans (behind found parsed)⟩

theorem afterRounds_add (first later : Nat) : afterRounds data (first + later) offset =
    (afterRounds data first offset).bind (afterRounds data later) := by
  induction first generalizing offset with
  | zero => rw [Nat.zero_add, afterRounds, bind_some]
  | succ first ih =>
    rw [Nat.add_right_comm, afterRounds, afterRounds, bind_assoc]
    exact bind_congr fun next _ => ih

/-- A round starts within the packet. -/
theorem lt_length_of_nextRound {next : Nat} (leads : nextRound data offset = some next) :
    offset < data.length := by
  by_contra outside
  rw [nextRound, drop_eq_nil_of_le (Nat.not_lt.mp outside)] at leads
  cases leads

/-- Rounds that come back to an offset do so again and again. -/
theorem afterRounds_mul {rounds : Nat} (back : afterRounds data rounds offset = some offset)
    (times : Nat) : afterRounds data (rounds * times) offset = some offset := by
  induction times with
  | zero => rfl
  | succ times ih => rw [Nat.mul_succ, afterRounds_add, ih, bind_some, back]

/-- The rounds from an offset end exactly if none of them reaches an offset again. -/
theorem rounds_end_iff : (∃ rounds, afterRounds data rounds offset = none) ↔
    ∀ first later reached, first < later → afterRounds data first offset = some reached →
      afterRounds data later offset ≠ some reached := by
  constructor
  · rintro ⟨rounds, ended⟩ first later reached before here again
    have back : afterRounds data (later - first) reached = some reached := by
      rw [← again, ← Nat.add_sub_cancel' before.le, afterRounds_add, here, bind_some,
        Nat.add_sub_cancel_left]
    have kept := afterRounds_mul back rounds
    have enough : rounds ≤ first + (later - first) * rounds :=
      (Nat.le_mul_of_pos_left rounds (Nat.sub_pos_of_lt before)).trans (Nat.le_add_left _ _)
    have reached_late : afterRounds data (first + (later - first) * rounds) offset =
        some reached := by rw [afterRounds_add, here, bind_some, kept]
    rw [← Nat.add_sub_cancel' enough, afterRounds_add, ended] at reached_late
    cases reached_late
  · intro fresh
    by_contra endless
    -- there are only as many offsets as bytes
    have each (rounds : Nat) : ∃ reached : Fin data.length,
        afterRounds data rounds offset = some reached.val := by
      have ⟨next, leads⟩ := ne_none_iff_exists'.mp (not_exists.mp endless (rounds + 1))
      rw [afterRounds_add, bind_eq_some_iff] at leads
      have ⟨reached, here, leads⟩ := leads
      rw [afterRounds, bind_eq_some_iff] at leads
      have ⟨_, leads, _⟩ := leads
      exact ⟨⟨reached, lt_length_of_nextRound leads⟩, here⟩
    choose reached here using each
    have ⟨first, later, apart, same⟩ := Finite.exists_ne_map_eq_of_infinite reached
    rcases Nat.lt_or_gt_of_ne apart with before | before
    · exact fresh first later _ before (here first) (same ▸ here later)
    · exact fresh later first _ before (here later) (same ▸ here first)

/-- Parsing a name ends exactly if no offset is reached twice on the way from its own, and the
offset behind the name is not before it. -/
theorem parseDNSName_terminates_iff (data : List UInt8) (offset : Nat) :
    ((∃ fuel found, parseDNSName data fuel offset = some found) ↔
      ∀ first later reached, first < later → afterRounds data first offset = some reached →
        afterRounds data later offset ≠ some reached) ∧
      ∀ fuel, ∀ found ∈ parseDNSName data fuel offset, offset ≤ found.2 := by
  have each (fuel : Nat) := @parseParts_rounds data fuel offset [] [] nofun
  rw [← rounds_end_iff]
  constructor
  · refine exists_congr fun fuel => ?_
    rw [← ne_none_iff_exists', Ne, parseDNSName, map_eq_none_iff, (each fuel).1, not_not]
  · intro fuel found parsed
    have ⟨parts, read, same⟩ := map_eq_some_iff.mp parsed
    rw [← same]
    exact (each fuel).2 parts read

/-- A pointer to its own offset. -/
theorem own_pointer_followed_forever :
    (parseDNSName [0xc0, 0x00] · 0) = fun _ => none := by
  funext fuel
  refine map_eq_none_iff.mpr ?_
  induction fuel with
  | zero => rfl
  | succ fuel ih => exact map_eq_none_iff.mpr ih

end Shuttle.MDNS
