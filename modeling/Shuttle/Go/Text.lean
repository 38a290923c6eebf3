import Mathlib.Data.List.Induction

/-!
# Byte strings of the Go runtime

A Go string is a sequence of bytes with no promise of valid UTF-8, so text is modelled as
a byte list. The `strings` functions here are those of the standard library on that
representation. Case mapping takes a table-driven path for text with a byte above 0x7f;
the tables are a parameter, and every result about a program holds for all tables.
-/

namespace Shuttle.Go

open List

/-- A Go `string`: its bytes in order. -/
abbrev GoString := List UInt8

/-- The bytes of an ASCII literal of the source. -/
def lit (text : String) : GoString := text.toList.map fun char => UInt8.ofNat char.toNat

def dot : UInt8 := 0x2e

def colon : UInt8 := 0x3a

/-- Bytes below `utf8.RuneSelf`: the whole text is ASCII. -/
def isASCII (text : GoString) : Bool := text.all (· < 0x80)

def lowerByte (byte : UInt8) : UInt8 :=
  if 0x41 ≤ byte ∧ byte ≤ 0x5a then byte + 0x20 else byte

/-- The Unicode paths of case mapping, reached only by text with a byte above 0x7f. -/
structure UnicodeTables where
  /-- The result of `strings.Map(unicode.ToLower, text)`. -/
  lower : GoString → GoString
  /-- The rune-by-rune folding comparison of `strings.EqualFold`. -/
  fold : GoString → GoString → Bool

/-- Lowering as in `strings.ToLower`: byte by byte on ASCII text, by the tables otherwise. -/
def toLower (tables : UnicodeTables) (text : GoString) : GoString :=
  if isASCII text then text.map lowerByte else tables.lower text

/-- Tables for text of which only the ASCII letters have a case. -/
def bytewiseTables : UnicodeTables where
  lower := fun text => text.map lowerByte
  fold := fun left right => left.map lowerByte == right.map lowerByte

def upperByte (byte : UInt8) : UInt8 :=
  if 0x61 ≤ byte ∧ byte ≤ 0x7a then byte - 0x20 else byte

/-- The Unicode paths of case mapping in both directions. -/
structure CaseTables extends UnicodeTables where
  /-- The result of `strings.Map(unicode.ToUpper, text)`. -/
  upper : GoString → GoString

instance : Coe CaseTables UnicodeTables := ⟨CaseTables.toUnicodeTables⟩

def bytewiseCase : CaseTables := ⟨bytewiseTables, fun text => text.map upperByte⟩

def toUpper (tables : CaseTables) (text : GoString) : GoString :=
  if isASCII text then text.map upperByte else tables.upper text

/-- Comparison up to case, as in `strings.EqualFold`. -/
def equalFold (tables : UnicodeTables) (left right : GoString) : Bool :=
  if isASCII left && isASCII right then left.map lowerByte == right.map lowerByte
  else tables.fold left right

/-- Remove one leading occurrence of `lead`, as in `strings.TrimPrefix`. -/
def trimLead (text lead : GoString) : GoString :=
  if lead.isPrefixOf text then text.drop lead.length else text

/-- Remove one trailing occurrence of `tail`, as in `strings.TrimSuffix`. -/
def trimTail (text tail : GoString) : GoString :=
  if tail.isSuffixOf text then text.take (text.length - tail.length) else text

/-- The encodings of the runes for which `unicode.IsSpace` holds. -/
def spaces : List GoString :=
  [[0x09], [0x0a], [0x0b], [0x0c], [0x0d], [0x20], [0xc2, 0x85], [0xc2, 0xa0], [0xe1, 0x9a, 0x80],
    [0xe2, 0x80, 0xa8], [0xe2, 0x80, 0xa9], [0xe2, 0x80, 0xaf], [0xe2, 0x81, 0x9f],
    [0xe3, 0x80, 0x80]] ++
  (List.range 11).map fun offset => [0xe2, 0x80, UInt8.ofNat (0x80 + offset)]

def trimSpaceLead : (count : Nat) → GoString → GoString
  | 0, text => text
  | count + 1, text =>
    match spaces.find? fun space => space.isPrefixOf text with
    | none => text
    | some space => trimSpaceLead count (text.drop space.length)

def trimSpaceTail : (count : Nat) → GoString → GoString
  | 0, text => text
  | count + 1, text =>
    match spaces.find? fun space => space.isSuffixOf text with
    | none => text
    | some space => trimSpaceTail count (text.take (text.length - space.length))

def trimSpace (text : GoString) : GoString :=
  trimSpaceTail text.length (trimSpaceLead text.length text)

variable {byte : UInt8} {text : GoString}

theorem not_mem_space {space : GoString} (listed : space ∈ spaces)
    (inside : byte ∈ space) : ¬(0x20 < byte ∧ byte < 0x7f) := by
  have all : spaces.all (fun space => space.all fun byte =>
      decide ¬(0x20 < byte ∧ byte < 0x7f)) = true := by decide +kernel
  exact of_decide_eq_true (all_eq_true.mp (all_eq_true.mp all space listed) byte inside)

theorem trimSpace_of_ends (head : ∀ byte, text.head? = some byte → 0x20 < byte ∧ byte < 0x7f)
    (last : ∀ byte, text.getLast? = some byte → 0x20 < byte ∧ byte < 0x7f) :
    trimSpace text = text := by
  have solid : spaces.all (fun space => !space.isEmpty) = true := by decide +kernel
  have lead : (spaces.find? fun space => space.isPrefixOf text) = none := by
    refine List.find?_eq_none.mpr fun space listed found => ?_
    have ⟨rest, whole⟩ := List.isPrefixOf_iff_prefix.mp found
    cases space with
    | nil => exact absurd (all_eq_true.mp solid [] listed) (by decide)
    | cons byte more =>
      exact not_mem_space listed mem_cons_self (head byte (by simp [← whole]))
  have tail : (spaces.find? fun space => space.isSuffixOf text) = none := by
    refine List.find?_eq_none.mpr fun space listed found => ?_
    have ⟨front, whole⟩ := isSuffixOf_iff_suffix.mp found
    cases space using List.reverseRecOn with
    | nil => exact absurd (all_eq_true.mp solid [] listed) (by decide)
    | append_singleton more byte =>
      exact not_mem_space listed mem_concat_self (last byte (by simp [← whole]))
  have first : trimSpaceLead text.length text = text := by
    cases text.length with
    | zero => rfl
    | succ count => rw [trimSpaceLead, lead]
  rw [trimSpace, first]
  cases text.length with
  | zero => rfl
  | succ count => rw [trimSpaceTail, tail]

theorem trimSpace_printable
    (printable : ∀ byte ∈ text, 0x20 < byte ∧ byte < 0x7f) : trimSpace text = text :=
  trimSpace_of_ends (fun byte head => printable byte (mem_of_head? head))
    (fun byte last => printable byte (mem_of_getLast? last))

/-- `strings.Split` with a one-byte separator. -/
def splitByte (separator : UInt8) : GoString → List GoString
  | [] => [[]]
  | byte :: rest =>
    if byte = separator then [] :: splitByte separator rest
    else match splitByte separator rest with
      | [] => [[byte]]
      | field :: fields => (byte :: field) :: fields

theorem splitByte_ne_nil (separator : UInt8) (text : GoString) : splitByte separator text ≠ [] := by
  cases text with
  | nil => nofun
  | cons byte rest =>
    rw [splitByte]
    split
    · nofun
    · split <;> nofun

/-- `strings.IndexByte`; none when absent. -/
def indexByte (text : GoString) (byte : UInt8) : Option Nat := text.findIdx? (· == byte)

theorem indexByte_none_iff : indexByte text byte = none ↔ byte ∉ text := by
  unfold indexByte
  rw [List.findIdx?_eq_none_iff]
  constructor
  · intro absent member
    simpa using absent byte member
  · intro absent other member
    have differs : other ≠ byte := fun same => absent (same ▸ member)
    simpa using differs

theorem indexByte_append_cons {front : GoString} (absent : byte ∉ front)
    (rest : GoString) : indexByte (front ++ byte :: rest) byte = some front.length := by
  have earlier := indexByte_none_iff.mpr absent
  unfold indexByte at earlier ⊢
  rw [List.findIdx?_append, earlier, List.findIdx?_cons]
  simp

theorem indexByte_some {position : Nat} (found : indexByte text byte = some position) :
    text = text.take position ++ byte :: text.drop (position + 1) ∧
      byte ∉ text.take position ∧ position < text.length := by
  have present : byte ∈ text := by
    by_contra absent
    rw [indexByte_none_iff.mpr absent] at found
    cases found
  have ⟨front, rest, split, absent⟩ := eq_append_cons_of_mem present
  rw [split, indexByte_append_cons absent] at found
  have same := Option.some.inj found
  subst same
  rw [split, take_left, ← drop_drop, drop_left, length_append, length_cons]
  exact ⟨rfl, absent, by omega⟩

/-- Position of the last occurrence of a byte, as in `bytealg.LastIndexByteString`. -/
def lastIndexByte (text : GoString) (byte : UInt8) : Option Nat :=
  (text.reverse.findIdx? (· == byte)).map fun back => text.length - 1 - back

theorem lastIndexByte_append_cons (front : GoString) {rest : GoString}
    (absent : byte ∉ rest) : lastIndexByte (front ++ byte :: rest) byte = some front.length := by
  have reversed : (front ++ byte :: rest).reverse = rest.reverse ++ byte :: front.reverse := by
    rw [reverse_append, reverse_cons, append_assoc, singleton_append]
  have found := indexByte_append_cons (fun member => absent (mem_reverse.mp member))
    front.reverse
  unfold indexByte at found
  rw [lastIndexByte, reversed, found, Option.map_some, length_append, length_cons, length_reverse]
  congr 1
  omega

theorem lastByte_inj {front other rest behind : GoString} (absent : byte ∉ rest)
    (missing : byte ∉ behind) (same : front ++ byte :: rest = other ++ byte :: behind) :
    front = other ∧ rest = behind := by
  have last := lastIndexByte_append_cons front absent
  rw [same, lastIndexByte_append_cons other missing] at last
  have ⟨fronts, rests⟩ := append_inj same (Option.some.inj last).symm
  exact ⟨fronts, (List.cons.inj rests).2⟩

theorem lastIndexByte_some {position : Nat} (found : lastIndexByte text byte = some position) :
    ∃ front rest, text = front ++ byte :: rest ∧ byte ∉ rest ∧ position = front.length := by
  have present : byte ∈ text.reverse := by
    by_contra absent
    have nowhere := indexByte_none_iff.mpr absent
    unfold indexByte at nowhere
    rw [lastIndexByte, nowhere] at found
    cases found
  have ⟨back, front, split, absent⟩ := eq_append_cons_of_mem present
  have whole : text = front.reverse ++ byte :: back.reverse := by
    rw [← reverse_reverse text, split, reverse_append, reverse_cons, append_assoc, singleton_append]
  have later : byte ∉ back.reverse := fun member => absent (mem_reverse.mp member)
  rw [whole, lastIndexByte_append_cons _ later] at found
  exact ⟨front.reverse, back.reverse, whole, later, (Option.some.inj found).symm⟩

/-- A Go map: absent keys have no value. -/
abbrev GoMap (κ υ : Type) := κ → Option υ

namespace GoMap

variable {κ υ : Type} [DecidableEq κ]

def empty : GoMap κ υ := fun _ => none

variable (map : GoMap κ υ)

def set (key : κ) (value : υ) : GoMap κ υ := Function.update map key (some value)

def delete (key : κ) : GoMap κ υ := Function.update map key none

/-- Store pairs in order: the last pair of a key counts. -/
def setAll (pairs : List (κ × υ)) : GoMap κ υ :=
  pairs.foldl (fun map pair => map.set pair.1 pair.2) map

def ofList (pairs : List (κ × υ)) : GoMap κ υ := empty.setAll pairs

variable {map : GoMap κ υ} {key : κ} {value : υ} {pairs : List (κ × υ)}

theorem set_eq_some_iff {other : κ} {found : υ} :
    map.set key value other = some found ↔
      other = key ∧ value = found ∨ other ≠ key ∧ map other = some found := by
  rw [set, Function.update_apply]
  split
  · rename_i same
    simp [same]
  · rename_i apart
    simp [apart]

theorem delete_eq_some_iff {other : κ} {found : υ} :
    map.delete key other = some found ↔ other ≠ key ∧ map other = some found := by
  rw [delete, Function.update_apply]
  split
  · rename_i same
    simp [same]
  · rename_i apart
    simp [apart]

theorem ofList_append (earlier later : List (κ × υ)) :
    ofList (earlier ++ later) = (ofList earlier).setAll later :=
  foldl_append

theorem setAll_listed (map : GoMap κ υ) {pair : κ × υ} (listed : pair ∈ pairs) :
    ∃ value, (pair.1, value) ∈ pairs ∧ map.setAll pairs pair.1 = some value := by
  induction pairs using List.reverseRecOn with
  | nil => cases listed
  | append_singleton pairs last ih =>
    rw [setAll, foldl_append, foldl_cons, foldl_nil]
    by_cases same : pair.1 = last.1
    · exact ⟨last.2, same ▸ mem_append_right pairs mem_cons_self,
        set_eq_some_iff.mpr (.inl ⟨same, rfl⟩)⟩
    have earlier : pair ∈ pairs := by
      rcases mem_append.mp listed with before | final
      · exact before
      · exact absurd (congrArg Prod.fst (mem_singleton.mp final)) same
    have ⟨value, kept, found⟩ := ih earlier
    exact ⟨value, mem_append_left [last] kept, set_eq_some_iff.mpr (.inr ⟨same, found⟩)⟩

theorem setAll_of_mem
    (listed : (key, value) ∈ pairs) (only : ∀ pair ∈ pairs, pair.1 = key → pair.2 = value) :
    map.setAll pairs key = some value := by
  have ⟨other, kept, found⟩ := setAll_listed map listed
  rw [← only _ kept rfl]
  exact found

/-- No key has two values in a list of pairs. -/
def Consistent (pairs : List (κ × υ)) : Prop :=
  ∀ left ∈ pairs, ∀ right ∈ pairs, left.1 = right.1 → left.2 = right.2

theorem ofList_concat (pairs : List (κ × υ)) (pair : κ × υ) :
    ofList (pairs ++ [pair]) = (ofList pairs).set pair.1 pair.2 := by
  rw [ofList_append]
  rfl

theorem ofList_filter (keep : κ → Bool) (pairs : List (κ × υ)) (key : κ) :
    ofList (pairs.filter fun pair => keep pair.1) key =
      if keep key then ofList pairs key else none := by
  induction pairs using List.reverseRecOn with
  | nil => exact (ite_self _).symm
  | append_singleton pairs pair ih =>
    rw [filter_append, ofList_concat]
    by_cases own : key = pair.1
    · subst own
      cases kept : keep pair.1 <;> simp [kept, ih, ofList_concat, set]
    · cases kept : keep pair.1 <;> simp [kept, ih, ofList_concat, set, own]

theorem ofList_mem (found : ofList pairs key = some value) : (key, value) ∈ pairs := by
  induction pairs using List.reverseRecOn with
  | nil => cases found
  | append_singleton pairs pair ih =>
    rw [ofList_concat, set_eq_some_iff] at found
    rcases found with ⟨same, stored⟩ | ⟨_, earlier⟩
    · rw [same, ← stored]
      exact mem_append_right pairs mem_cons_self
    · exact mem_append_left [pair] (ih earlier)

theorem Consistent.ofList_eq_some_iff (consistent : Consistent pairs)
    (key : κ) (value : υ) : ofList pairs key = some value ↔ (key, value) ∈ pairs := by
  constructor
  · exact ofList_mem
  · intro listed
    exact setAll_of_mem listed fun pair member => consistent pair member _ listed

theorem Consistent.ofList_perm {other : List (κ × υ)} (consistent : Consistent pairs)
    (shuffled : pairs.Perm other) : ofList pairs = ofList other := by
  have shuffledConsistent : Consistent other := by
    intro left leftListed right rightListed
    exact consistent left (shuffled.mem_iff.mpr leftListed) right
      (shuffled.mem_iff.mpr rightListed)
  funext key
  apply Option.ext
  intro value
  have before := consistent.ofList_eq_some_iff key value
  have after := shuffledConsistent.ofList_eq_some_iff key value
  exact before.trans (shuffled.mem_iff.trans after.symm)

end GoMap

end Shuttle.Go
