import Mathlib.Data.List.Basic

/-!
# Authenticated encryption

An ideal cipher with associated data left out: under a key and a nonce exactly what was sealed is
opened, and sealing adds a tag of 16 bytes. That nobody seals without the key is no law of these
functions; a development in which an attacker chooses the bytes states it about its runs.
-/

namespace Shuttle.Lib

/-- Authenticated encryption with the key, the nonce and the text as arguments. -/
structure AEAD where
  aeadSeal : List UInt8 → List UInt8 → List UInt8 → List UInt8
  /-- The plaintext, none when the tag does not fit. -/
  aeadOpen : List UInt8 → List UInt8 → List UInt8 → Option (List UInt8)
  aeadOpen_eq_some_iff : ∀ key nonce ciphertext plaintext,
    aeadOpen key nonce ciphertext = some plaintext ↔ ciphertext = aeadSeal key nonce plaintext
  aeadSeal_length : ∀ key nonce plaintext,
    (aeadSeal key nonce plaintext).length = plaintext.length + 16

namespace AEAD

theorem aeadOpen_aeadSeal (aead : AEAD) (key nonce plaintext : List UInt8) :
    aead.aeadOpen key nonce (aead.aeadSeal key nonce plaintext) = some plaintext :=
  (aead.aeadOpen_eq_some_iff key nonce _ plaintext).mpr rfl

theorem length_of_aeadOpen (aead : AEAD) {key nonce ciphertext plaintext : List UInt8}
    (opened : aead.aeadOpen key nonce ciphertext = some plaintext) :
    ciphertext.length = plaintext.length + 16 := by
  rw [(aead.aeadOpen_eq_some_iff key nonce ciphertext plaintext).mp opened, aead.aeadSeal_length]

/-- A cipher that only adds a tag, to compute with. -/
def tagOnly : AEAD where
  aeadSeal _ _ plaintext := plaintext ++ List.replicate 16 0
  aeadOpen _ _ ciphertext :=
    if ciphertext.drop (ciphertext.length - 16) = List.replicate 16 0 then
      some (ciphertext.take (ciphertext.length - 16))
    else none
  aeadOpen_eq_some_iff key nonce ciphertext plaintext := by
    constructor
    · intro opened
      have ⟨tagged, taken⟩ := Option.ite_none_right_eq_some.mp opened
      rw [← Option.some.inj taken, ← tagged, List.take_append_drop]
    · intro made
      subst made
      simp
  aeadSeal_length _ _ _ := by simp

end AEAD

end Shuttle.Lib
