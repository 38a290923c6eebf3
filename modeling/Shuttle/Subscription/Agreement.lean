import Shuttle.Go.Names
import Shuttle.Proxy.Inbound
import Shuttle.Subscription.Import
import Mathlib.Data.List.Infix

/-!
# What a subscription and an import read from one text

A native list is a JSON array or object, so neither the base64 decoders nor the line checks for
`shuttle://` and Clash get hold of it; the sing-box and SIP008 detectors alone decide which servers
`ParseSubscription` returns. The results say when these leave the list to `ImportConfig`, for the
text itself and for its base64 encoding.
-/

namespace Shuttle.Subscription

open Shuttle.Go List Option Base64

/-! ## Reading the standard encoding back -/

theorem idxOf_base64Digit (group : Nat) :
    std.alphabet.idxOf? (Proxy.base64Digit group) = some (group % 64) := by
  have all : ∀ low < 64, std.alphabet.idxOf? (Proxy.base64Digit low) = some low := by
    decide +kernel
  have same : Proxy.base64Digit group = Proxy.base64Digit (group % 64) := by
    simp only [Proxy.base64Digit, Nat.mod_mod]
  rw [same]
  exact all (group % 64) (Nat.mod_lt group (by decide))

theorem base64Digit_mem (group : Nat) : Proxy.base64Digit group ∈ std.alphabet := by
  by_contra absent
  have lost := List.idxOf?_eq_none_iff.mpr absent
  rw [idxOf_base64Digit] at lost
  cases lost

theorem base64Digit_ne_pad (group : Nat) : Proxy.base64Digit group ≠ pad := by
  intro pads
  have digit := base64Digit_mem group
  rw [pads] at digit
  exact absurd digit (by decide +kernel)

theorem digitValues_base64Digit (groups : List Nat) :
    std.digitValues (groups.map Proxy.base64Digit) = some (groups.map (· % 64)) := by
  induction groups with
  | nil => rfl
  | cons group groups ih =>
    rw [map_cons, digitValues, idxOf_base64Digit, ih]
    rfl

theorem quantum_base64Digit {groups : List Nat} {bytes : List UInt8} (three : bytes.length = 3)
    (count : Nat) (whole : (groups.map (· % 64)).getD 0 0 * 2 ^ 18 +
      (groups.map (· % 64)).getD 1 0 * 2 ^ 12 + (groups.map (· % 64)).getD 2 0 * 2 ^ 6 +
      (groups.map (· % 64)).getD 3 0 = ofBe bytes) :
    std.quantum (groups.map Proxy.base64Digit) count = some (bytes.take count) := by
  have read : beBytes 3 (ofBe bytes) = bytes := three ▸ beBytes_ofBe bytes
  rw [quantum, digitValues_base64Digit, map_some, whole, read]

theorem quantum_three (a b c : UInt8) :
    std.quantum ([ofBe [a, b, c] / 2 ^ 18, ofBe [a, b, c] / 2 ^ 12, ofBe [a, b, c] / 2 ^ 6,
      ofBe [a, b, c]].map Proxy.base64Digit) 3 = some [a, b, c] := by
  have fits : ofBe [a, b, c] < 256 ^ 3 := ofBe_lt [a, b, c]
  refine @quantum_base64Digit _ [a, b, c] rfl 3 ?_
  simp only [map_cons, getD_cons_zero, getD_cons_succ]
  omega

theorem quantum_two (a b : UInt8) :
    std.quantum ([ofBe [a, b, 0] / 2 ^ 18, ofBe [a, b, 0] / 2 ^ 12,
      ofBe [a, b, 0] / 2 ^ 6].map Proxy.base64Digit) 2 = some [a, b] := by
  have fits : ofBe [a, b, 0] < 256 ^ 3 := ofBe_lt [a, b, 0]
  have low : ofBe [a, b, 0] % 64 = 0 := by
    simp only [ofBe, length_cons, length_nil, UInt8.toNat_zero]
    omega
  refine @quantum_base64Digit _ [a, b, 0] rfl 2 ?_
  simp only [map_cons, map_nil, getD_cons_zero, getD_cons_succ, getD_nil]
  omega

theorem quantum_one (a : UInt8) :
    std.quantum ([ofBe [a, 0, 0] / 2 ^ 18,
      ofBe [a, 0, 0] / 2 ^ 12].map Proxy.base64Digit) 1 = some [a] := by
  have fits : ofBe [a, 0, 0] < 256 ^ 3 := ofBe_lt [a, 0, 0]
  have low : ofBe [a, 0, 0] % 4096 = 0 := by
    simp only [ofBe, length_cons, length_nil, UInt8.toNat_zero]
    omega
  refine @quantum_base64Digit _ [a, 0, 0] rfl 1 ?_
  simp only [map_cons, map_nil, getD_cons_zero, getD_cons_succ, getD_nil]
  omega

variable (text : GoString)

theorem decodeQuanta_base64 : ∀ text : GoString,
    std.decodeQuanta (Proxy.base64 text) = some text
  | [] => rfl
  | [a] => by
    have group := quantum_one a
    rw [map_cons, map_cons, map_nil] at group
    rw [Proxy.base64, decodeQuanta, if_pos ⟨rfl, rfl⟩, if_neg (fun more => more rfl),
      if_pos (show (0x3d : UInt8) = pad from rfl), group]
  | [a, b] => by
    have group := quantum_two a b
    rw [map_cons, map_cons, map_cons, map_nil] at group
    rw [Proxy.base64, decodeQuanta, if_pos ⟨rfl, rfl⟩, if_neg (fun more => more rfl),
      if_neg (base64Digit_ne_pad _), group]
  | a :: b :: c :: rest => by
    have group := quantum_three a b c
    rw [map_cons, map_cons, map_cons, map_cons, map_nil] at group
    rw [Proxy.base64, cons_append, cons_append, cons_append, cons_append,
      nil_append, decodeQuanta, if_neg fun ends => base64Digit_ne_pad _ ends.2, group,
      decodeQuanta_base64 rest]
    rfl

theorem base64_printable : ∀ byte ∈ Proxy.base64 text, 0x20 < byte ∧ byte < 0x7f := by
  have all : ∀ byte ∈ pad :: std.alphabet, 0x20 < byte ∧ byte < 0x7f := by decide +kernel
  have ⟨pads, digits⟩ := forall_mem_cons.mp all
  have digit (group : Nat) := digits _ (base64Digit_mem group)
  fun_induction Proxy.base64 text with
  | case1 a b c rest word ih => simpa [digit] using ih
  | case2 a b word => simp [digit]
  | case3 a word => simp [digit]
  | case4 => exact nofun

theorem decodeString_base64 : std.decodeString (Proxy.base64 text) = some text := by
  have kept : ((Proxy.base64 text).filter fun byte => byte ≠ 0x0d ∧ byte ≠ 0x0a) =
      Proxy.base64 text := by
    refine filter_eq_self.mpr fun byte listed => decide_eq_true ?_
    have ⟨above, _⟩ := base64_printable text byte listed
    exact ⟨fun same => absurd (same ▸ above) (by decide),
      fun same => absurd (same ▸ above) (by decide)⟩
  rw [decodeString, kept]
  exact decodeQuanta_base64 text

/-! ## Which format reads a JSON text -/

variable {formats : Formats} {text : GoString} {doc : Json}

theorem brackets_not_mem_std : 0x5b ∉ std.alphabet ∧ 0x7b ∉ std.alphabet := by
  decide +kernel

theorem brackets_not_mem_url : 0x5b ∉ url.alphabet ∧ 0x7b ∉ url.alphabet := by
  decide +kernel

/-- What the detector that claims a document returns, if one does. -/
def foreignDoc (formats : Formats) (doc : Json) : Option (Except GoString (List ServerEndpoint)) :=
  if hasOutbounds doc then some (singboxDoc formats doc) else (sip008Doc formats doc).map .ok

section Read

variable (read : formats.json.parse text = some doc)

include read

theorem not_uris :
    ((lit "shuttle://").isPrefixOf text || contains text (lit "\nshuttle://")) = false := by
  have lines := formats.json.lines text doc read
  have other : (0x73 : UInt8) ≠ 0x0a := by decide
  rw [Bool.or_eq_false_iff]
  constructor
  · rw [Bool.eq_false_iff]
    intro starts
    have ⟨rest, whole⟩ := List.isPrefixOf_iff_prefix.mp starts
    have head : text.head? = some 0x73 := by
      rw [← whole]
      rfl
    have ⟨line, listed, first⟩ := exists_field_of_head other head
    exact (lines line listed).2 first
  · rw [Bool.eq_false_iff]
    intro inside
    have ⟨tail, listed, starts⟩ := any_eq_true.mp inside
    have ⟨front, whole⟩ := (mem_tails _ _).mp listed
    have ⟨rest, later⟩ := List.isPrefixOf_iff_prefix.mp starts
    have split : text = front ++ 0x0a :: (lit "shuttle://" ++ rest) := by
      rw [← whole, ← later]
      rfl
    have head : (lit "shuttle://" ++ rest).head? = some 0x73 := rfl
    have ⟨line, within, first⟩ := exists_field_of_head other head
    refine (lines line ?_).2 first
    rw [split, splitByte_append]
    exact mem_append_right _ within

theorem not_clash : isClashFormat formats text = false := by
  rw [isClashFormat, Bool.and_eq_false_iff]
  left
  rw [Bool.eq_false_iff]
  intro found
  have ⟨line, listed, starts⟩ := any_eq_true.mp found
  have key : lit "proxies:" <+: line :=
    (List.isPrefixOf_iff_prefix.mp starts).trans (List.rdropWhile_prefix _ line)
  have ⟨rest, whole⟩ := key
  refine (formats.json.lines text doc read line listed).1 ?_
  rw [← whole]
  rfl

theorem not_base64 (composite : doc.composite = true) (base64 : Base64)
    (foreign : 0x5b ∉ base64.alphabet ∧ 0x7b ∉ base64.alphabet) :
    base64.decodeString text = none := by
  rcases formats.json.bracketed text doc read composite with bracket | brace
  · exact decodeString_eq_none bracket foreign.1 (by decide)
  · exact decodeString_eq_none brace foreign.2 (by decide)

theorem text_ne_nil (composite : doc.composite = true) : text ≠ [] := by
  rintro rfl
  rcases formats.json.bracketed [] doc read composite with bracket | brace
  · exact absurd bracket not_mem_nil
  · exact absurd brace not_mem_nil

theorem importConfig_ok_iff (composite : doc.composite = true) (servers : List ServerEndpoint) :
    importConfig formats text = .ok servers ↔ importDoc formats doc = .ok servers := by
  have data := formats.json.trimmed text doc read
  have again := formats.json.trimmed _ doc data
  have undecoded : tryBase64Decode (trimSpace text) = none := by
    have none := not_base64 data composite
    rw [tryBase64Decode, none std brackets_not_mem_std, none url brackets_not_mem_url,
      none rawStd brackets_not_mem_std, none rawURL brackets_not_mem_url]
    rfl
  simp only [importConfig, if_neg (text_ne_nil data composite), not_uris data, undecoded,
    getD_none, parseJSON, again]
  cases importDoc formats doc with
  | ok found => exact Iff.rfl
  | error message => exact ⟨fun same => (nomatch same), fun same => (nomatch same)⟩

theorem parseContent_of_parse :
    parseContent formats text = (foreignDoc formats doc).getD (importConfig formats text) := by
  have singbox : isSingboxFormat formats text = hasOutbounds doc := by
    rw [isSingboxFormat, read]
    rfl
  simp only [parseContent, not_clash read, singbox, foreignDoc, parseSingbox, parseSIP008, read,
    bind_some]
  cases hasOutbounds doc with
  | true => rfl
  | false =>
    cases sip008Doc formats doc with
    | none | some servers => rfl

theorem parseSubscription_text (composite : doc.composite = true) :
    parseSubscription formats text = parseContent formats (trimSpace text) := by
  have content := formats.json.trimmed text doc read
  have none := not_base64 content composite
  simp only [parseSubscription, if_neg (text_ne_nil content composite),
    none std brackets_not_mem_std, none rawStd brackets_not_mem_std]
  rfl

end Read

theorem base64_ne_nil (solid : text ≠ []) : Proxy.base64 text ≠ [] := by
  intro empty
  have read := decodeString_base64 text
  rw [empty] at read
  exact solid (Option.some.inj read).symm

theorem parseSubscription_base64 (solid : text ≠ []) :
    parseSubscription formats (Proxy.base64 text) = parseContent formats text := by
  simp only [parseSubscription, trimSpace_printable (base64_printable text),
    if_neg (base64_ne_nil solid), decodeString_base64, some_or, getD_some]

/-! ## Documents that no detector claims -/

/-- A document with neither a member `outbounds` nor one that is decoded as `servers`. -/
def Unclaimed (fold : GoString → GoString) : Json → Prop
  | .object members => ∀ member ∈ members,
      member.1 ≠ lit "outbounds" ∧ fold member.1 ≠ fold (lit "servers")
  | _ => True

theorem sip008Doc_object {members : List (GoString × Json)}
    (absent : ∀ member ∈ members, formats.json.fold member.1 ≠ formats.json.fold (lit "servers")) :
    sip008Doc formats (.object members) = none := by
  rw [sip008Doc, bind_eq_none_iff]
  intro list decoded
  have empty : list.servers = [] := by
    refine Decoder.record_invariant (fun list : SIP008 => list.servers = []) ?_ rfl decoded
    intro member listed field known same value next start set
    simp only [sip008Fields, mem_cons, not_mem_nil, or_false] at known
    rcases known with rfl | rfl
    · have ⟨_, _, put⟩ := map_eq_some_iff.mp set
      exact put ▸ start
    · exact absurd same.symm (absent member listed)
  rw [empty]
  rfl

theorem Unclaimed.foreignDoc_eq_none (unclaimed : Unclaimed formats.json.fold doc) :
    foreignDoc formats doc = none := by
  cases doc with
  | object members =>
    have outbounds : hasOutbounds (.object members) = false := by
      rw [Bool.eq_false_iff]
      intro found
      have ⟨member, listed, named⟩ := any_eq_true.mp found
      exact (unclaimed member listed).1 (of_decide_eq_true named)
    rw [foreignDoc, outbounds, sip008Doc_object fun member listed => (unclaimed member listed).2]
    rfl
  | null | bool value | number value float | string text | array items => rfl

/-- A text that a JSON reader may accept as an array or object. -/
@[mk_iff]
structure Readable (text : GoString) : Prop where
  bracketed : 0x5b ∈ text ∨ 0x7b ∈ text
  lines : ∀ line ∈ splitByte 0x0a text, line.head? ≠ some 0x70 ∧ line.head? ≠ some 0x73
  trimmed : trimSpace text = text

def formatsOf (text : GoString) (doc : Json) (readable : Readable text) : Formats where
  json := {
    parse := fun other => if other = text then some doc else none
    fold := id
    bracketed := fun _ _ read _ => (Option.ite_none_right_eq_some.mp read).1 ▸ readable.bracketed
    lines := fun _ _ read => (Option.ite_none_right_eq_some.mp read).1 ▸ readable.lines
    trimmed := by
      intro other found read
      have same := (Option.ite_none_right_eq_some.mp read).1
      rw [same, readable.trimmed]
      rwa [same] at read }
  proxies := fun _ => 0
  clash := fun _ => .error (lit "no proxies")
  uris := fun _ => .error (lit "no valid servers found")

theorem formatsOf_parse (text : GoString) (doc : Json) (readable : Readable text) :
    (formatsOf text doc readable).json.parse text = some doc :=
  if_pos rfl

def sampleServer : Json := .object [(lit "addr", .string (lit "a:1"))]

def sampleArray : GoString := lit "[\x7b\"addr\":\"a:1\"\x7d]"

theorem sampleArray_readable : Readable sampleArray :=
  (readable_iff _).mpr (by decide +kernel)

def arrayFormats : Formats := formatsOf sampleArray (.array [sampleServer]) sampleArray_readable

def sampleWrapped : GoString := lit "\x7b\"servers\":[\x7b\"addr\":\"a:1\"\x7d]\x7d"

theorem sampleWrapped_readable : Readable sampleWrapped :=
  (readable_iff _).mpr (by decide +kernel)

def wrappedFormats : Formats :=
  formatsOf sampleWrapped (.object [(lit "servers", .array [sampleServer])]) sampleWrapped_readable

end Shuttle.Subscription
