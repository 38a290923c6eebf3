import Mathlib.Tactic.Ring
import Mathlib.Tactic.Linarith
import Mathlib.Data.List.Basic
import Mathlib.Data.Nat.ModEq

/-!
# Network byte order and leading-bit masks

Fixed-width unsigned words are written most significant byte first, as in `encoding/binary`. A mask
of leading one bits keeps the quotient by a power of two; the byte-wise mask is connected to that
reading once here for every width.
-/

namespace Shuttle.Go

open List Nat

/-- The low `8 * width` bits of a word, most significant byte first. -/
def beBytes : Nat → Nat → List UInt8
  | 0, _ => []
  | width + 1, value => UInt8.ofNat (value / 256 ^ width) :: beBytes width value

def ofBe : List UInt8 → Nat
  | [] => 0
  | byte :: rest => byte.toNat * 256 ^ rest.length + ofBe rest

@[simp]
theorem beBytes_length (width value : Nat) : (beBytes width value).length = width := by
  induction width with
  | zero => rfl
  | succ width ih => simp [beBytes, ih]

variable (bytes : List UInt8)

theorem ofBe_lt : ofBe bytes < 256 ^ bytes.length := by
  induction bytes with
  | nil => simp [ofBe]
  | cons byte rest ih =>
    have digit : byte.toNat + 1 ≤ 256 := byte.toNat_lt
    have scaled := mul_le_mul_right (256 ^ rest.length) digit
    simp only [ofBe, length_cons, pow_succ]
    linarith

theorem ofBe_beBytes (width value : Nat) : ofBe (beBytes width value) = value % 256 ^ width := by
  induction width with
  | zero => simp [beBytes, ofBe, mod_one]
  | succ width ih =>
    have digits : value % 256 ^ (width + 1) =
        value % 256 ^ width + 256 ^ width * (value / 256 ^ width % 256) := by
      rw [pow_succ, mod_mul]
    rw [digits]
    simp only [beBytes, ofBe, beBytes_length, ih, UInt8.toNat_ofNat']
    ring

theorem ofBe_beBytes_of_lt {width value : Nat} (fits : value < 256 ^ width) :
    ofBe (beBytes width value) = value := by
  rw [ofBe_beBytes, mod_eq_of_lt fits]

theorem ofBe_append (high low : List UInt8) :
    ofBe (high ++ low) = ofBe high * 256 ^ low.length + ofBe low := by
  induction high with
  | nil => simp [ofBe]
  | cons byte rest ih =>
    simp only [cons_append, ofBe, ih, length_append]
    ring

theorem beBytes_add_mul (width high value : Nat) {scale : Nat} (above : width ≤ scale) :
    beBytes width (high * 256 ^ scale + value) = beBytes width value := by
  induction width with
  | zero => rfl
  | succ width ih =>
    have factor : high * 256 ^ scale =
        256 ^ width * (256 * (high * 256 ^ (scale - width - 1))) := by
      have power : 256 ^ scale = 256 ^ width * 256 * 256 ^ (scale - width - 1) := by
        rw [← pow_succ, ← pow_add]
        congr 1
        omega
      rw [power]
      ring
    have digit : UInt8.ofNat ((high * 256 ^ scale + value) / 256 ^ width) =
        UInt8.ofNat (value / 256 ^ width) := by
      apply UInt8.toNat_inj.mp
      rw [UInt8.toNat_ofNat', UInt8.toNat_ofNat', factor,
        Nat.mul_add_div (Nat.pow_pos (by decide)), Nat.mul_add_mod]
    rw [beBytes, beBytes, digit, ih (by omega)]

theorem beBytes_ofBe : beBytes bytes.length (ofBe bytes) = bytes := by
  induction bytes with
  | nil => rfl
  | cons byte rest ih =>
    have low := ofBe_lt rest
    have digit : (byte.toNat * 256 ^ rest.length + ofBe rest) / 256 ^ rest.length = byte.toNat := by
      rw [Nat.add_comm, Nat.add_mul_div_right _ _ (Nat.pow_pos (by decide)), Nat.div_eq_of_lt low,
        zero_add]
    rw [length_cons, ofBe, beBytes, digit, beBytes_add_mul _ _ _ (le_refl _), ih,
      UInt8.ofNat_toNat]

/-- A mask of `ones` leading one bits over `width` bytes, as `net.CIDRMask` builds it. -/
def leadingMask : Nat → Nat → List UInt8
  | 0, _ => []
  | width + 1, ones =>
    if 8 ≤ ones then 0xff :: leadingMask width (ones - 8)
    else ~~~((0xff : UInt8) >>> UInt8.ofNat ones) :: leadingMask width 0

@[simp]
theorem leadingMask_length (width ones : Nat) : (leadingMask width ones).length = width := by
  induction width generalizing ones with
  | zero => rfl
  | succ width ih =>
    rw [leadingMask]
    split <;> simp [ih]

/-- Byte-wise conjunction, the body of `IP.Mask` for equal lengths. -/
def maskBytes (bytes mask : List UInt8) : List UInt8 := List.zipWith (· &&& ·) bytes mask

theorem mask_byte_few (byte : UInt8) (ones : Nat) (few : ones < 8) :
    (byte &&& ~~~((0xff : UInt8) >>> UInt8.ofNat ones)).toNat =
      byte.toNat / 2 ^ (8 - ones) * 2 ^ (8 - ones) := by
  have all : ∀ (ones : Fin 8) (byte : Fin 256),
      (UInt8.ofNat byte.val &&& ~~~((0xff : UInt8) >>> UInt8.ofNat ones.val)).toNat =
        byte.val / 2 ^ (8 - ones.val) * 2 ^ (8 - ones.val) := by decide +kernel
  have found := all ⟨ones, few⟩ ⟨byte.toNat, byte.toNat_lt⟩
  simpa using found

theorem maskBytes_none : ofBe (maskBytes bytes (leadingMask bytes.length 0)) = 0 := by
  induction bytes with
  | nil => rfl
  | cons byte rest ih =>
    simp only [maskBytes] at ih
    simp [maskBytes, leadingMask, ofBe, ih]

theorem ofBe_maskBytes (ones : Nat) (fits : ones ≤ 8 * bytes.length) :
    ofBe (maskBytes bytes (leadingMask bytes.length ones)) =
      ofBe bytes / 2 ^ (8 * bytes.length - ones) * 2 ^ (8 * bytes.length - ones) := by
  induction bytes generalizing ones with
  | nil => simp [maskBytes]
  | cons byte rest ih =>
    have base : (256 : Nat) ^ rest.length = 2 ^ (8 * rest.length) := by
      rw [Nat.pow_mul]
    have masked_length (mask : Nat) :
        (List.zipWith (· &&& ·) rest (leadingMask rest.length mask)).length = rest.length := by
      simp
    by_cases many : 8 ≤ ones
    · have below : ones - 8 ≤ 8 * rest.length := by
        simp only [length_cons] at fits
        omega
      have cleared : 8 * (byte :: rest).length - ones = 8 * rest.length - (ones - 8) := by
        simp only [length_cons]
        omega
      have whole : byte &&& 0xff = byte := by
        apply UInt8.toNat_inj.mp
        exact (Nat.and_two_pow_sub_one_eq_mod byte.toNat 8).trans (Nat.mod_eq_of_lt byte.toNat_lt)
      have divides : 2 ^ (8 * rest.length - (ones - 8)) ∣ byte.toNat * 256 ^ rest.length := by
        rw [base]
        exact Dvd.dvd.mul_left (Nat.pow_dvd_pow 2 (Nat.sub_le _ _)) _
      have high := ih (ones - 8) below
      simp only [maskBytes] at high
      rw [cleared]
      simp only [length_cons, leadingMask, many, ↓reduceIte, maskBytes, zipWith_cons_cons,
        ofBe, masked_length, whole, high]
      rw [Nat.add_div_of_dvd_right divides, Nat.add_mul, Nat.div_mul_cancel divides]
    · have few : ones < 8 := by omega
      have empty := maskBytes_none rest
      simp only [maskBytes] at empty
      have cleared : 8 * (byte :: rest).length - ones = (8 - ones) + 8 * rest.length := by
        simp only [length_cons]
        omega
      have small := ofBe_lt rest
      rw [base] at small
      have quotient : (byte.toNat * 2 ^ (8 * rest.length) + ofBe rest) / 2 ^ (8 * rest.length) =
          byte.toNat := by
        rw [Nat.add_comm, Nat.add_mul_div_right _ _ (Nat.two_pow_pos _), Nat.div_eq_of_lt small,
          Nat.zero_add]
      rw [cleared]
      simp only [length_cons, leadingMask, many, ↓reduceIte, maskBytes, zipWith_cons_cons,
        ofBe, masked_length, empty, mask_byte_few byte ones few, base]
      rw [Nat.add_comm (8 - ones), Nat.pow_add, ← Nat.div_div_eq_div_mul, quotient]
      ring

def leadingOnes (byte : UInt8) : Nat :=
  ((List.range 8).takeWhile fun bit => byte.toNat.testBit (7 - bit)).length

/-- `simpleMaskLength` of `net`; none when a one follows a zero. -/
def simpleMaskLength : List UInt8 → Option Nat
  | [] => some 0
  | byte :: rest =>
    if byte = 0xff then (simpleMaskLength rest).map (8 + ·)
    else
      let ones := leadingOnes byte
      if byte = ~~~((0xff : UInt8) >>> UInt8.ofNat ones) ∧ rest.all (· == 0) then some ones
      else none

theorem aligned_add_le {base size width : Nat} (fits : size ≤ width) (below : base < 2 ^ width)
    (aligned : base % 2 ^ size = 0) : base + 2 ^ size ≤ 2 ^ width := by
  have positive : 0 < 2 ^ size := Nat.two_pow_pos size
  have whole : 2 ^ width = 2 ^ size * 2 ^ (width - size) := by
    rw [← Nat.pow_add, Nat.add_sub_cancel' fits]
  have blocks := div_add_mod base (2 ^ size)
  rw [aligned, add_zero] at blocks
  have block : base / 2 ^ size < 2 ^ (width - size) := by
    rw [div_lt_iff_lt_mul positive, mul_comm, ← whole]
    exact below
  have scaled := mul_le_mul_left (2 ^ size) (succ_le_of_lt block)
  rw [← whole, mul_succ, blocks] at scaled
  exact scaled

theorem wrapped_size_sub {size width less : Nat} (fits : size ≤ width) (few : less ≤ 2 ^ size)
    (some : 0 < less) :
    (2 ^ size % 2 ^ width + (2 ^ width - less)) % 2 ^ width = 2 ^ size - less := by
  by_cases all : size = width
  · subst all
    rw [mod_self, zero_add, mod_eq_of_lt (by omega)]
  · have below : 2 ^ size < 2 ^ width := Nat.pow_lt_pow_right (by decide) (by omega)
    have carried : 2 ^ size + (2 ^ width - less) = 2 ^ size - less + 2 ^ width := by omega
    rw [mod_eq_of_lt below, carried, add_mod_right, mod_eq_of_lt (by omega)]

end Shuttle.Go
