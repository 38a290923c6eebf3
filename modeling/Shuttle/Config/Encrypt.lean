import Shuttle.Lib.AEAD
import Shuttle.Subscription.Agreement
import Mathlib.Data.List.Nodup

/-!
# Secrets of the configuration files

Saving a configuration copies it, encrypts the sensitive fields of the copy in place and writes it;
loading decrypts them in place. An encrypted field is told by its first four bytes alone. Slices
share cells with their copies unless these are made anew, so memory is the list of its string cells
and a configuration says which cells its fields are.
-/

namespace Shuttle.Config

open Shuttle.Go Shuttle.Lib Shuttle.Subscription List

/-! ## One field -/

inductive EncryptError where
  /-- "encryption key must be 32 bytes, got %d". -/
  | keyLength (got : Nat)
  /-- "value does not have ENC: prefix". -/
  | noMark
  /-- "base64 decode: %w". -/
  | base64Decode
  /-- "ciphertext too short". -/
  | tooShort
  /-- "decrypt: %w". -/
  | decrypt

/-- The mark of an encrypted value, `encPrefix` of the source. -/
def encMark : GoString := lit "ENC:"

def isEncrypted (value : GoString) : Bool := encMark.isPrefixOf value

def nonceSize : Nat := 12

variable (gcm : AEAD)

/-- `Encrypt` with AES-256-GCM and the nonce it draws. -/
def encrypt (nonce plaintext key : List UInt8) : Except EncryptError GoString :=
  if key.length ≠ 32 then .error (.keyLength key.length)
  else .ok (encMark ++ Proxy.base64 (nonce ++ gcm.aeadSeal key nonce plaintext))

def decrypt (gcm : AEAD) (encoded key : List UInt8) : Except EncryptError GoString :=
  if !isEncrypted encoded then .error .noMark
  else if key.length ≠ 32 then .error (.keyLength key.length)
  else
    match Base64.std.decodeString (trimLead encoded encMark) with
    | none => .error .base64Decode
    | some raw =>
      if raw.length < nonceSize then .error .tooShort
      else
        match gcm.aeadOpen key (raw.take nonceSize) (raw.drop nonceSize) with
        | none => .error .decrypt
        | some plaintext => .ok plaintext

def decryptIfEncrypted (value key : List UInt8) : Except EncryptError GoString :=
  if !isEncrypted value then .ok value else decrypt gcm value key

/-- The new value of a field in `encryptFields`, with the number of nonces drawn so far. -/
def encryptField (nonces : Nat → List UInt8) (key : List UInt8) (drawn : Nat)
    (value : GoString) : Except EncryptError (GoString × Nat) :=
  if value = [] ∨ isEncrypted value then .ok (value, drawn)
  else (encrypt gcm (nonces drawn) value key).map fun encoded => (encoded, drawn + 1)

def decryptField (key : List UInt8) (_ : Unit) (value : GoString) :
    Except EncryptError (GoString × Unit) :=
  (decryptIfEncrypted gcm value key).map fun plaintext => (plaintext, ())

theorem decrypt_encrypt {gcm : AEAD} {nonce key : List UInt8} (sized : nonce.length = nonceSize)
    (keyed : key.length = 32) (plaintext : GoString) :
    decrypt gcm (encMark ++ Proxy.base64 (nonce ++ gcm.aeadSeal key nonce plaintext)) key =
      .ok plaintext := by
  have marked : isEncrypted
      (encMark ++ Proxy.base64 (nonce ++ gcm.aeadSeal key nonce plaintext)) = true :=
    isPrefixOf_iff_prefix.mpr (prefix_append ..)
  have long : ¬(nonce ++ gcm.aeadSeal key nonce plaintext).length < nonceSize := by
    rw [length_append]
    omega
  have opened := gcm.aeadOpen_aeadSeal key nonce plaintext
  unfold decrypt
  rw [marked, trimLead_append, decodeString_base64]
  simp only [Bool.not_true, Bool.false_eq_true, if_false, keyed, ne_eq, not_true_eq_false, long]
  rw [← sized, take_left, drop_left, opened]

theorem length_of_decrypt {gcm : AEAD} {encoded key plaintext : List UInt8}
    (read : decrypt gcm encoded key = .ok plaintext) : plaintext.length < encoded.length := by
  unfold decrypt at read
  split at read
  · cases read
  split at read
  · cases read
  split at read
  · cases read
  rename_i raw decoded
  split at read
  · cases read
  split at read
  · cases read
  rename_i opened
  cases read
  have tagged := gcm.length_of_aeadOpen opened
  rw [length_drop] at tagged
  have coded := Base64.length_of_decodeString decoded
  have trimmed : (trimLead encoded encMark).length ≤ encoded.length := by
    unfold trimLead
    split
    · exact length_drop ▸ Nat.sub_le _ _
    · exact Nat.le_refl _
  omega

theorem decrypt_ne (encoded key : List UInt8) : decrypt gcm encoded key ≠ .ok encoded :=
  fun read => Nat.lt_irrefl _ (length_of_decrypt read)

theorem decryptIfEncrypted_encryptField {nonces : Nat → List UInt8} {key : List UInt8}
    (sized : ∀ index, (nonces index).length = nonceSize) (keyed : key.length = 32) (drawn : Nat)
    (value : GoString) :
    ∃ stored next, encryptField gcm nonces key drawn value = .ok (stored, next) ∧
      (decryptIfEncrypted gcm stored key = .ok value ↔ isEncrypted value = false) := by
  unfold encryptField
  split
  · refine ⟨value, drawn, rfl, ?_⟩
    cases marked : isEncrypted value with
    | false => simp [decryptIfEncrypted, marked]
    | true => simpa [decryptIfEncrypted, marked] using decrypt_ne gcm value key
  · rename_i plain
    have unmarked : isEncrypted value = false :=
      Bool.eq_false_iff.mpr fun marked => plain (.inr marked)
    refine ⟨encMark ++ Proxy.base64 (nonces drawn ++ gcm.aeadSeal key (nonces drawn) value),
      drawn + 1, ?_, iff_of_true ?_ unmarked⟩
    · rw [encrypt, if_neg (not_not.mpr keyed)]
      rfl
    · exact decrypt_encrypt (sized drawn) keyed value

/-! ## Fields in memory -/

abbrev Memory := List GoString

def load (memory : Memory) (pointer : Nat) : GoString := memory.getD pointer []

section Loop

variable {ν : Type} (rewrite : ν → GoString → Except EncryptError (GoString × ν))

def rewriteFields : List Nat → ν → Memory → Option EncryptError × Memory
  | [], _, memory => (none, memory)
  | pointer :: rest, counter, memory =>
    match rewrite counter (load memory pointer) with
    | .error cause => (some cause, memory)
    | .ok (value, next) => rewriteFields rest next (memory.set pointer value)

def rewriteValues : ν → List GoString → Except EncryptError (List GoString)
  | _, [] => .ok []
  | counter, value :: rest =>
    match rewrite counter value with
    | .error cause => .error cause
    | .ok (new, next) => (rewriteValues next rest).map (new :: ·)

theorem load_set_ne {memory : Memory} {pointer other : Nat} (value : GoString)
    (apart : other ≠ pointer) : load (memory.set pointer value) other = load memory other := by
  rw [load, load, getD_eq_getElem?_getD, getD_eq_getElem?_getD,
    getElem?_set_ne (Ne.symm apart)]

theorem rewriteFields_keeps {other : Nat} {pointers : List Nat} :
    other ∉ pointers → ∀ (counter : ν) (memory : Memory),
      load (rewriteFields rewrite pointers counter memory).2 other = load memory other := by
  induction pointers with
  | nil => exact fun _ _ _ => rfl
  | cons pointer rest ih =>
    intro absent counter memory
    have ⟨apart, later⟩ := not_or.mp (mem_cons.not.mp absent)
    rw [rewriteFields]
    split
    · rfl
    · rw [ih later, load_set_ne _ apart]

theorem rewriteFields_values {pointers : List Nat} : pointers.Nodup → ∀ (counter : ν)
    (memory : Memory), (∀ pointer ∈ pointers, pointer < memory.length) →
    match rewriteValues rewrite counter (pointers.map (load memory)) with
    | .error cause => (rewriteFields rewrite pointers counter memory).1 = some cause
    | .ok values => ∃ after, rewriteFields rewrite pointers counter memory = (none, after) ∧
        pointers.map (load after) = values := by
  induction pointers with
  | nil => exact fun _ _ _ _ => ⟨_, rfl, rfl⟩
  | cons pointer rest ih =>
    intro nodup counter memory inside
    have ⟨absent, restNodup⟩ := nodup_cons.mp nodup
    have ⟨here, later⟩ := forall_mem_cons.mp inside
    rw [map_cons, rewriteValues, rewriteFields]
    cases rewrite counter (load memory pointer) with
    | error cause => rfl
    | ok result =>
      -- no two pointers are the same, so the other fields are still as they were
      have kept : rest.map (load (memory.set pointer result.1)) = rest.map (load memory) :=
        map_congr_left fun other listed =>
          load_set_ne _ fun same => absent (same ▸ listed)
      have rewritten := ih restNodup result.2 (memory.set pointer result.1)
        (by rw [length_set]; exact later)
      rw [kept] at rewritten
      dsimp only
      cases made : rewriteValues rewrite result.2 (rest.map (load memory)) with
      | error cause =>
        rw [made] at rewritten
        exact rewritten
      | ok values =>
        rw [made] at rewritten
        have ⟨after, ended, loaded⟩ := rewritten
        have own := rewriteFields_keeps rewrite absent result.2 (memory.set pointer result.1)
        rw [ended, load, load, getD_eq_getElem?_getD, getD_eq_getElem?_getD,
          getElem?_set_self here] at own
        refine ⟨after, ended, ?_⟩
        rw [map_cons, loaded, load, getD_eq_getElem?_getD, own]
        rfl

end Loop

section Files

variable (gcm : AEAD) (nonces : Nat → List UInt8) (key : List UInt8)

def encryptFields (fields : List Nat) (memory : Memory) : Option EncryptError × Memory :=
  rewriteFields (encryptField gcm nonces key) fields 0 memory

def decryptFields (fields : List Nat) (memory : Memory) : Option EncryptError × Memory :=
  rewriteFields (decryptField gcm key) fields () memory

/-- Save through a copy behind the cells of memory: the sensitive fields of the file, or an error,
and memory afterwards. -/
def save (fields copyFields : List Nat) (memory : Memory) :
    Except EncryptError (List GoString) × Memory :=
  match encryptFields gcm nonces key copyFields (memory ++ fields.map (load memory)) with
  | (some cause, after) => (.error cause, after)
  | (none, after) => (.ok (copyFields.map (load after)), after)

/-- Loading: the sensitive fields of the file are read into new cells and decrypted. -/
def loadFile (file : List GoString) : Except EncryptError (List GoString) :=
  match decryptFields gcm key (range file.length) file with
  | (some cause, _) => .error cause
  | (none, after) => .ok ((range file.length).map (load after))

/-- Saving with the key and loading with it gives every sensitive field back. -/
def Restores (fields copyFields : List Nat) (memory : Memory) : Prop :=
  ∃ file, (save gcm nonces key fields copyFields memory).1 = .ok file ∧
    loadFile gcm key file = .ok (fields.map (load memory))

variable {key}

theorem decryptValues_cons_iff {stored value : GoString} {rest values : List GoString} :
    rewriteValues (decryptField gcm key) () (stored :: rest) = .ok (value :: values) ↔
      decryptIfEncrypted gcm stored key = .ok value ∧
        rewriteValues (decryptField gcm key) () rest = .ok values := by
  rw [rewriteValues, decryptField]
  cases decryptIfEncrypted gcm stored key with
  | error cause => simp [Except.map]
  | ok plaintext =>
    dsimp only [Except.map]
    cases rewriteValues (decryptField gcm key) () rest with
    | error cause | ok others => simp

variable {nonces}

theorem decrypt_encrypt_values (sized : ∀ index, (nonces index).length = nonceSize)
    (keyed : key.length = 32) (values : List GoString) : ∀ drawn : Nat,
    ∃ stored, rewriteValues (encryptField gcm nonces key) drawn values = .ok stored ∧
      (rewriteValues (decryptField gcm key) () stored = .ok values ↔
        ∀ value ∈ values, isEncrypted value = false) := by
  induction values with
  | nil => exact fun drawn => ⟨[], rfl, iff_of_true rfl nofun⟩
  | cons value rest ih =>
    intro drawn
    have ⟨stored, next, made, decides⟩ :=
      decryptIfEncrypted_encryptField gcm sized keyed drawn value
    have ⟨others, othersMade, othersDecide⟩ := ih next
    refine ⟨stored :: others, ?_, ?_⟩
    · rw [rewriteValues, made]
      dsimp only
      rw [othersMade]
      rfl
    · rw [decryptValues_cons_iff, decides, othersDecide, forall_mem_cons]

theorem map_load_range (values : List GoString) :
    (range values.length).map (load values) = values := by
  apply ext_getElem?
  intro index
  rw [getElem?_map]
  by_cases inside : index < values.length
  · rw [getElem?_range inside, Option.map_some, load, getD_eq_getElem?_getD,
      getElem?_eq_getElem inside]
    rfl
  · rw [getElem?_eq_none (by rw [length_range]; omega), getElem?_eq_none (by omega)]
    rfl

theorem loadFile_ok_iff {file values : List GoString} :
    loadFile gcm key file = .ok values ↔
      rewriteValues (decryptField gcm key) () file = .ok values := by
  have rewritten := rewriteFields_values (decryptField gcm key) nodup_range () file
    fun pointer listed => mem_range.mp listed
  rw [map_load_range] at rewritten
  unfold loadFile decryptFields
  cases made : rewriteValues (decryptField gcm key) () file with
  | error cause =>
    rw [made] at rewritten
    cases ended : rewriteFields (decryptField gcm key) (range file.length) () file with
    | mk stopped after =>
      rw [ended] at rewritten
      cases rewritten
      simp
  | ok others =>
    rw [made] at rewritten
    have ⟨after, ended, loaded⟩ := rewritten
    rw [ended]
    simp only [loaded]

/-- Cells of its own: the pointers behind the cells of memory, in order. -/
abbrev freshCells (memory : Memory) (fields : List Nat) : List Nat :=
  range' memory.length fields.length

theorem load_fresh (memory : Memory) (fields : List Nat) :
    (freshCells memory fields).map (load (memory ++ fields.map (load memory))) =
      fields.map (load memory) := by
  apply ext_getElem?
  intro index
  rw [getElem?_map, getElem?_map]
  by_cases inside : index < fields.length
  · rw [getElem?_range' inside, Option.map_some, load, getD_eq_getElem?_getD,
      getElem?_append_right (by omega), getElem?_map, Nat.one_mul,
      Nat.add_sub_cancel_left, getElem?_eq_getElem inside]
    rfl
  · rw [getElem?_eq_none (by rw [length_range']; omega), getElem?_eq_none (by omega)]
    rfl

theorem restores_iff (sized : ∀ index, (nonces index).length = nonceSize) (keyed : key.length = 32)
    (memory : Memory) (fields : List Nat) :
    Restores gcm nonces key fields (freshCells memory fields) memory ↔
      ∀ pointer ∈ fields, isEncrypted (load memory pointer) = false := by
  have ⟨stored, made, decides⟩ :=
    decrypt_encrypt_values gcm sized keyed (fields.map (load memory)) 0
  have encrypted := rewriteFields_values (encryptField gcm nonces key)
    (nodup_range' (s := memory.length) (n := fields.length)) 0
    (memory ++ fields.map (load memory)) fun pointer listed => by
      have ⟨index, below, same⟩ := mem_range'.mp listed
      rw [length_append, length_map]
      omega
  rw [load_fresh, made] at encrypted
  have ⟨after, ended, values⟩ := encrypted
  have saved : (save gcm nonces key fields (freshCells memory fields) memory).1 = .ok stored := by
    simp only [save, encryptFields, ended, values]
  rw [forall_mem_map] at decides
  rw [← decides, ← loadFile_ok_iff gcm]
  constructor
  · intro ⟨file, fileSaved, loaded⟩
    cases saved.symm.trans fileSaved
    exact loaded
  · exact fun loaded => ⟨stored, saved, loaded⟩

theorem save_keeps (key : List UInt8) (nonces : Nat → List UInt8) {memory : Memory}
    (fields : List Nat) {pointer : Nat} (inside : pointer < memory.length) :
    load (save gcm nonces key fields (freshCells memory fields) memory).2 pointer =
      load memory pointer := by
  have absent : pointer ∉ freshCells memory fields := by
    intro listed
    have ⟨index, _, same⟩ := mem_range'.mp listed
    omega
  have kept := rewriteFields_keeps (encryptField gcm nonces key) absent 0
    (memory ++ fields.map (load memory))
  have after : (save gcm nonces key fields (freshCells memory fields) memory).2 =
      (encryptFields gcm nonces key (freshCells memory fields)
        (memory ++ fields.map (load memory))).2 := by
    unfold save
    split <;> simp only [*]
  rw [after, encryptFields, kept, load, load, getD_eq_getElem?_getD,
    getD_eq_getElem?_getD, getElem?_append_left inside]

end Files

/-! ## The two configurations -/

/-- The cells of the sensitive fields of a client's configuration. -/
structure ClientConfig where
  serverPassword : Nat
  /-- The passwords of `Servers`, none when the slice is nil. -/
  servers : Option (List Nat)
  /-- `Transport.WebRTC.TURNPass`. -/
  turnPass : Nat

variable (config : ClientConfig)

def clientSensitiveFields : List Nat :=
  config.serverPassword :: (config.servers.getD [] ++ [config.turnPass])

/-- `DeepCopy` into cells from this one on: the structure, and a slice of its own unless it is
nil. -/
def ClientConfig.deepCopy (next : Nat) : ClientConfig :=
  ⟨next, config.servers.map fun servers => range' (next + 1) servers.length,
    next + 1 + (config.servers.getD []).length⟩

structure ServerConfig where
  /-- `Auth.Password`. -/
  password : Nat
  /-- `Auth.PrivateKey`. -/
  privateKey : Nat
  /-- `Admin.Token`. -/
  token : Nat
  /-- `Cluster.Secret`. -/
  secret : Nat
  /-- The tokens of `Admin.Users`, none when the slice is nil. -/
  users : Option (List Nat)
  /-- `Transport.WebRTC.TURNPass`. -/
  turnPass : Nat

def serverSensitiveFields (config : ServerConfig) : List Nat :=
  [config.password, config.privateKey, config.token, config.secret] ++
    (config.users.getD [] ++ [config.turnPass])

/-- The copy that `SaveServerConfig` makes, into cells from this one on. -/
def ServerConfig.copy (config : ServerConfig) (next : Nat) : ServerConfig :=
  ⟨next, next + 1, next + 2, next + 3,
    config.users.map fun users => range' (next + 4) users.length,
    next + 4 + (config.users.getD []).length⟩

theorem copiedSlice (slice : Option (List Nat)) (next : Nat) :
    (slice.map fun cells => range' next cells.length).getD [] ++
      [next + (slice.getD []).length] = range' next ((slice.getD []).length + 1) := by
  rw [range'_1_concat]
  cases slice <;> rfl

theorem clientSensitiveFields_deepCopy (memory : Memory) :
    clientSensitiveFields (config.deepCopy memory.length) =
      freshCells memory (clientSensitiveFields config) := by
  unfold clientSensitiveFields ClientConfig.deepCopy
  rw [copiedSlice]
  simp [freshCells, range'_succ]

theorem serverSensitiveFields_copy (config : ServerConfig) (memory : Memory) :
    serverSensitiveFields (config.copy memory.length) =
      freshCells memory (serverSensitiveFields config) := by
  unfold serverSensitiveFields ServerConfig.copy
  rw [copiedSlice]
  simp [freshCells, range'_succ]

/-- Saving and loading with one key of 32 bytes restores every sensitive field exactly when none of
them begins with the mark of an encrypted value; saving changes no cell that was there. -/
theorem secrets_restored_iff (gcm : AEAD) (nonces : Nat → List UInt8)
    (sized : ∀ index, (nonces index).length = nonceSize) (key : List UInt8)
    (keyed : key.length = 32) (memory : Memory) :
    (∀ client : ClientConfig,
      (Restores gcm nonces key (clientSensitiveFields client)
          (clientSensitiveFields (client.deepCopy memory.length)) memory ↔
        ∀ pointer ∈ clientSensitiveFields client, isEncrypted (load memory pointer) = false) ∧
      ∀ pointer < memory.length, load (save gcm nonces key (clientSensitiveFields client)
        (clientSensitiveFields (client.deepCopy memory.length)) memory).2 pointer =
          load memory pointer) ∧
    (∀ server : ServerConfig,
      (Restores gcm nonces key (serverSensitiveFields server)
          (serverSensitiveFields (server.copy memory.length)) memory ↔
        ∀ pointer ∈ serverSensitiveFields server, isEncrypted (load memory pointer) = false) ∧
      ∀ pointer < memory.length, load (save gcm nonces key (serverSensitiveFields server)
        (serverSensitiveFields (server.copy memory.length)) memory).2 pointer =
          load memory pointer) := by
  constructor
  · intro client
    rw [clientSensitiveFields_deepCopy]
    exact ⟨restores_iff gcm sized keyed memory _,
      fun pointer inside => save_keeps gcm key nonces _ inside⟩
  · intro server
    rw [serverSensitiveFields_copy]
    exact ⟨restores_iff gcm sized keyed memory _,
      fun pointer inside => save_keeps gcm key nonces _ inside⟩

def sampleKey : List UInt8 := replicate 32 7

def sampleNonces (index : Nat) : List UInt8 := replicate 12 (UInt8.ofNat index)

def sampleClient : ClientConfig := ⟨0, some [1], 2⟩

theorem secrets_restored_ordinary :
    Restores AEAD.tagOnly sampleNonces sampleKey (clientSensitiveFields sampleClient)
      (clientSensitiveFields (sampleClient.deepCopy 3)) [lit "hunter2", lit "saved", []] :=
  ((secrets_restored_iff AEAD.tagOnly sampleNonces (fun _ => length_replicate) sampleKey
    length_replicate [lit "hunter2", lit "saved", []]).1 sampleClient).1.mpr (by decide)

/-- A password that begins like an encrypted value is saved as it is, and the file can not be
loaded. -/
theorem marked_password_lost :
    (save AEAD.tagOnly sampleNonces sampleKey (clientSensitiveFields sampleClient)
        (clientSensitiveFields (sampleClient.deepCopy 3)) [lit "ENC:hunter2", [], []]).1 =
      .ok [lit "ENC:hunter2", [], []] ∧
      loadFile AEAD.tagOnly sampleKey [lit "ENC:hunter2", [], []] = .error .base64Decode :=
  ⟨rfl, rfl⟩

end Shuttle.Config
