import Shuttle.Go.Text
import Shuttle.Go.Words

/-!
# Reading base64

The four decoders of `encoding/base64`. Line ends are skipped anywhere, a padded decoder ends with a
padded group, an unpadded one may end with two or three digits, and every other byte outside the
alphabet is an error.
-/

namespace Shuttle.Go

open List

/-- A decoder: its alphabet and whether it pads. -/
structure Base64 where
  alphabet : GoString
  padded : Bool

namespace Base64

/-- The digits that all alphabets begin with. -/
def letters : GoString :=
  lit "ABCDEFGHIJKLMNOPQRSTUVWXYZabcdefghijklmnopqrstuvwxyz0123456789"

/-- `base64.StdEncoding`. -/
def std : Base64 := ⟨letters ++ lit "+/", true⟩

/-- `base64.URLEncoding`. -/
def url : Base64 := ⟨letters ++ lit "-_", true⟩

/-- `base64.RawStdEncoding`. -/
def rawStd : Base64 := ⟨letters ++ lit "+/", false⟩

/-- `base64.RawURLEncoding`. -/
def rawURL : Base64 := ⟨letters ++ lit "-_", false⟩

def pad : UInt8 := 0x3d

def digitValues (base64 : Base64) : GoString → Option (List Nat)
  | [] => some []
  | digit :: digits =>
    match base64.alphabet.idxOf? digit, digitValues base64 digits with
    | some value, some values => some (value :: values)
    | _, _ => none

/-- The first bytes of a group whose missing digits are zero. -/
def quantum (base64 : Base64) (digits : GoString) (count : Nat) : Option (List UInt8) :=
  (base64.digitValues digits).map fun values =>
    (beBytes 3 (values.getD 0 0 * 2 ^ 18 + values.getD 1 0 * 2 ^ 12 + values.getD 2 0 * 2 ^ 6 +
      values.getD 3 0)).take count

def decodeQuanta (base64 : Base64) : GoString → Option (List UInt8)
  | [] => some []
  | [_] => none
  | [a, b] => if base64.padded then none else base64.quantum [a, b] 1
  | [a, b, c] => if base64.padded then none else base64.quantum [a, b, c] 2
  | a :: b :: c :: d :: rest =>
    if base64.padded = true ∧ d = pad then
      if rest ≠ [] then none
      else if c = pad then base64.quantum [a, b] 1
      else base64.quantum [a, b, c] 2
    else
      match base64.quantum [a, b, c, d] 3, decodeQuanta base64 rest with
      | some bytes, some more => some (bytes ++ more)
      | _, _ => none

def decodeString (base64 : Base64) (text : GoString) : Option (List UInt8) :=
  base64.decodeQuanta (text.filter fun byte => byte ≠ 0x0d ∧ byte ≠ 0x0a)

variable {base64 : Base64}

theorem mem_of_digitValues : ∀ {digits : GoString} {values : List Nat},
    base64.digitValues digits = some values → ∀ digit ∈ digits, digit ∈ base64.alphabet := by
  intro digits
  induction digits with
  | nil => exact nofun
  | cons first digits ih =>
    intro values read digit listed
    rw [digitValues] at read
    split at read
    · rename_i value more found rest
      rcases mem_cons.mp listed with rfl | later
      · by_contra absent
        rw [List.idxOf?_eq_none_iff.mpr absent] at found
        cases found
      · exact ih rest digit later
    · cases read

variable {digits : GoString} {bytes : List UInt8}

theorem mem_of_quantum {count : Nat} (read : base64.quantum digits count = some bytes) :
    ∀ digit ∈ digits, digit ∈ base64.alphabet :=
  have ⟨_, values, _⟩ := Option.map_eq_some_iff.mp read
  mem_of_digitValues values

theorem mem_of_decodeQuanta : ∀ {bytes : List UInt8},
    base64.decodeQuanta digits = some bytes →
    ∀ digit ∈ digits, digit ∈ base64.alphabet ∨ digit = pad := by
  fun_induction decodeQuanta base64 digits with
  | case1 | case2 | case3 | case5 | case7 | case11 => exact nofun
  | case4 a b unpadded | case6 a b c unpadded =>
    exact fun read digit listed => .inl (mem_of_quantum read digit listed)
  | case8 a b d rest ends last =>
    intro bytes read digit listed
    rw [not_not.mp last, ends.2] at listed
    rcases mem_append.mp (show digit ∈ [a, b] ++ [pad, pad] from listed) with digits | pads
    · exact .inl (mem_of_quantum read digit digits)
    · exact .inr (eq_of_mem_replicate (show digit ∈ List.replicate 2 pad from pads))
  | case9 a b c d rest ends last third =>
    intro bytes read digit listed
    rw [not_not.mp last, ends.2] at listed
    rcases mem_append.mp (show digit ∈ [a, b, c] ++ [pad] from listed) with digits | pads
    · exact .inl (mem_of_quantum read digit digits)
    · exact .inr (mem_singleton.mp pads)
  | case10 a b c d rest _ first more later group ih =>
    intro bytes _ digit listed
    rcases mem_append.mp (show digit ∈ [a, b, c, d] ++ rest from listed) with digits | digits
    · exact .inl (mem_of_quantum group digit digits)
    · exact ih later digit digits

theorem length_of_quantum {count : Nat}
    (read : base64.quantum digits count = some bytes) : bytes.length ≤ count := by
  have ⟨values, _, taken⟩ := Option.map_eq_some_iff.mp read
  rw [← taken]
  exact length_take_le _ _

theorem length_of_decodeQuanta : ∀ {bytes : List UInt8},
    base64.decodeQuanta digits = some bytes → bytes.length ≤ digits.length := by
  fun_induction decodeQuanta base64 digits with
  | case1 =>
    intro bytes read
    cases read
    exact Nat.le_refl _
  | case2 | case3 | case5 | case7 | case11 => exact nofun
  | case4 a b unpadded | case6 a b c unpadded =>
    exact fun read => Nat.le_succ_of_le (length_of_quantum read)
  | case8 a b d rest ends last | case9 a b c d rest ends last third =>
    intro bytes read
    have few := length_of_quantum read
    simp only [length_cons]
    omega
  | case10 a b c d rest _ first more later group ih =>
    intro bytes read
    have few := length_of_quantum group
    have shorter := ih later
    rw [← Option.some.inj read, length_append]
    simp only [length_cons]
    omega

theorem length_of_decodeString {text : GoString}
    (read : base64.decodeString text = some bytes) : bytes.length ≤ text.length :=
  Nat.le_trans (length_of_decodeQuanta read) (length_filter_le _ _)

theorem decodeString_eq_none {text : GoString} {byte : UInt8} (listed : byte ∈ text)
    (foreign : byte ∉ base64.alphabet) (apart : byte ≠ pad ∧ byte ≠ 0x0d ∧ byte ≠ 0x0a) :
    base64.decodeString text = none := by
  rw [Option.eq_none_iff_forall_ne_some]
  intro bytes read
  have kept : byte ∈ text.filter fun byte => byte ≠ 0x0d ∧ byte ≠ 0x0a := by
    refine mem_filter.mpr ⟨listed, ?_⟩
    exact decide_eq_true apart.2
  rcases mem_of_decodeQuanta read byte kept with digit | pads
  · exact foreign digit
  · exact apart.1 pads

end Base64

end Shuttle.Go
