import Shuttle.Go.Format

/-!
# Text of domain names

The labels of a name are the fields between its dots, and one name ends another at a label exactly
when its labels end the other's. Names are compared after `strings.ToLower` and after removing a
leading "+." or a trailing dot; what the Unicode tables have to do for these steps to commute is
stated as laws of the tables.
-/

namespace Shuttle.Go

open List

/-! ## Fields -/

variable (separator : UInt8)

theorem splitByte_separator (rest : GoString) :
    splitByte separator (separator :: rest) = [] :: splitByte separator rest := by
  rw [splitByte, if_pos rfl]

theorem splitByte_other {separator byte : UInt8} (other : byte ≠ separator) (rest : GoString) :
    ∃ field fields, splitByte separator rest = field :: fields ∧
      splitByte separator (byte :: rest) = (byte :: field) :: fields := by
  cases parts : splitByte separator rest with
  | nil => exact absurd parts (splitByte_ne_nil separator rest)
  | cons field fields =>
    refine ⟨field, fields, rfl, ?_⟩
    rw [splitByte, if_neg other, parts]

variable {text : GoString}

theorem exists_field_of_head {separator first : UInt8}
    (other : first ≠ separator) (starts : text.head? = some first) :
    ∃ field ∈ splitByte separator text, field.head? = some first := by
  have ⟨rest, whole⟩ := head?_eq_some_iff.mp starts
  have ⟨field, fields, _, lines⟩ := splitByte_other other rest
  rw [whole, lines]
  exact ⟨first :: field, mem_cons_self, rfl⟩

theorem splitByte_injective : Function.Injective (splitByte separator) := by
  intro text
  induction text with
  | nil =>
    intro other same
    cases other with
    | nil => rfl
    | cons byte rest =>
      by_cases here : byte = separator
      · rw [here, splitByte_separator] at same
        exact absurd (cons.inj same).2.symm (splitByte_ne_nil separator rest)
      · have ⟨field, fields, _, first⟩ := splitByte_other here rest
        rw [first] at same
        cases (cons.inj same).1
  | cons byte rest ih =>
    intro other same
    by_cases here : byte = separator
    · rw [here, splitByte_separator] at same
      cases other with
      | nil => exact absurd (cons.inj same).2 (splitByte_ne_nil separator rest)
      | cons first later =>
        by_cases there : first = separator
        · rw [there, splitByte_separator] at same
          rw [here, there, ih (cons.inj same).2]
        · have ⟨field, fields, _, start⟩ := splitByte_other there later
          rw [start] at same
          cases (cons.inj same).1
    · have ⟨field, fields, parts, start⟩ := splitByte_other here rest
      rw [start] at same
      cases other with
      | nil => cases (cons.inj same).1
      | cons first later =>
        by_cases there : first = separator
        · rw [there, splitByte_separator] at same
          cases (cons.inj same).1
        · have ⟨otherField, otherFields, otherParts, otherStart⟩ := splitByte_other there later
          rw [otherStart] at same
          have ⟨heads, tails⟩ := cons.inj same
          have ⟨bytes, fieldTails⟩ := cons.inj heads
          have texts := @ih later (by rw [parts, otherParts, fieldTails, tails])
          rw [bytes, texts]

theorem splitByte_append (front rest : GoString) :
    splitByte separator (front ++ separator :: rest) =
      splitByte separator front ++ splitByte separator rest := by
  induction front with
  | nil => exact splitByte_separator separator rest
  | cons byte front ih =>
    by_cases here : byte = separator
    · rw [cons_append, here, splitByte_separator, splitByte_separator, ih]
      rfl
    · have ⟨field, fields, parts, start⟩ := splitByte_other here front
      have ⟨whole, wholes, joined, first⟩ := splitByte_other here (front ++ separator :: rest)
      rw [ih, parts, cons_append] at joined
      have ⟨heads, tails⟩ := cons.inj joined
      rw [cons_append, first, start, cons_append, heads, tails]

theorem splitByte_plain {separator : UInt8} (plain : separator ∉ text) :
    splitByte separator text = [text] := by
  induction text with
  | nil => rfl
  | cons byte rest ih =>
    have ⟨apart, later⟩ := not_or.mp (mt mem_cons.mpr plain)
    rw [splitByte, if_neg (Ne.symm apart), ih later]

theorem splitByte_joinByte {separator : UInt8} {lines : List GoString} (some : lines ≠ [])
    (plain : ∀ line ∈ lines, separator ∉ line) :
    splitByte separator (joinByte separator lines) = lines := by
  fun_induction joinByte separator lines with
  | case1 => exact absurd rfl some
  | case2 line => exact splitByte_plain (plain line mem_cons_self)
  | case3 line next rest ih =>
    rw [splitByte_append, splitByte_plain (plain line mem_cons_self),
      ih (cons_ne_nil _ _) fun other listed => plain other (mem_cons_of_mem _ listed)]
    rfl

theorem splitByte_suffix_iff (text whole : GoString) :
    splitByte separator text <:+ splitByte separator whole ↔
      whole = text ∨ separator :: text <:+ whole := by
  constructor
  · intro short
    induction whole with
    | nil =>
      have most := short.length_le
      have some := length_pos_iff.mpr (splitByte_ne_nil separator text)
      have one : (splitByte separator []).length = 1 := rfl
      have equal := short.eq_of_length (by omega)
      exact .inl (splitByte_injective separator equal).symm
    | cons byte rest ih =>
      by_cases here : byte = separator
      · subst here
        rw [splitByte_separator] at short
        rcases suffix_cons_iff.mp short with equal | later
        · rw [← splitByte_separator] at equal
          exact .inl (splitByte_injective byte equal).symm
        · rcases ih later with same | inside
          · rw [same]
            exact .inr suffix_rfl
          · exact .inr (inside.trans (suffix_cons byte rest))
      · have ⟨field, fields, parts, start⟩ := splitByte_other here rest
        rw [start] at short
        rcases suffix_cons_iff.mp short with equal | later
        · rw [← start] at equal
          exact .inl (splitByte_injective separator equal).symm
        · have within : splitByte separator text <:+ splitByte separator rest := by
            rw [parts]
            exact later.trans (suffix_cons field fields)
          rcases ih within with same | inside
          · rw [← same, parts] at later
            have bound := later.length_le
            rw [length_cons] at bound
            omega
          · exact .inr (inside.trans (suffix_cons byte rest))
  · rintro (same | ⟨front, joined⟩)
    · exact same ▸ suffix_rfl
    · rw [← joined, splitByte_append]
      exact suffix_append ..

/-! ## Leading and trailing parts -/

theorem trimLead_append (lead rest : GoString) : trimLead (lead ++ rest) lead = rest := by
  rw [trimLead, if_pos ( isPrefixOf_iff_prefix.mpr (prefix_append ..)), drop_left]

theorem trimLead_of_not {lead : GoString} (absent : ¬lead <+: text) :
    trimLead text lead = text := by
  rw [trimLead, if_neg]
  rw [ isPrefixOf_iff_prefix]
  exact absent

theorem trimTail_append (text tail : GoString) : trimTail (text ++ tail) tail = text := by
  rw [trimTail, if_pos (isSuffixOf_iff_suffix.mpr (suffix_append ..)),
    length_append, Nat.add_sub_cancel, take_left]

theorem trimTail_of_not {tail : GoString} (absent : ¬tail <:+ text) :
    trimTail text tail = text := by
  rw [trimTail, if_neg]
  rw [isSuffixOf_iff_suffix]
  exact absent

theorem trimTail_begins (text tail : GoString) : trimTail text tail <+: text := by
  rw [trimTail]
  split
  · exact take_prefix ..
  · exact prefix_rfl

theorem trimTail_behind (front : GoString) {rest : GoString} (more : rest ≠ []) :
    trimTail (front ++ rest) (lit ".") = front ++ trimTail rest (lit ".") := by
  by_cases ends : lit "." <:+ rest
  · have ⟨before, joined⟩ := ends
    rw [← joined, ← append_assoc, trimTail_append, trimTail_append]
  · have whole : ¬lit "." <:+ front ++ rest := by
      intro outer
      have long : (lit ".").length ≤ rest.length := length_pos_iff.mpr more
      exact ends (suffix_of_suffix_length_le outer (suffix_append ..) long)
    rw [trimTail_of_not ends, trimTail_of_not whole]

theorem trimLead_trimTail (apart : text ≠ lit "+.") :
    trimLead (trimTail text (lit ".")) (lit "+.") =
      trimTail (trimLead text (lit "+.")) (lit ".") := by
  by_cases starts : lit "+." <+: text
  · have ⟨rest, joined⟩ := starts
    have more : rest ≠ [] := by
      intro none
      rw [none] at joined
      exact apart joined.symm
    rw [← joined, trimTail_behind _ more, trimLead_append, trimLead_append]
  · have shorter : ¬lit "+." <+: trimTail text (lit ".") := by
      intro inner
      exact starts (inner.trans (trimTail_begins text _))
    rw [trimLead_of_not starts, trimLead_of_not shorter]

/-! ## Lowering -/

namespace UnicodeTables

structure Runewise (tables : UnicodeTables) : Prop where
  ascii : ∀ front byte rest, byte < 0x80 →
    toLower tables (front ++ byte :: rest) =
      toLower tables front ++ lowerByte byte :: toLower tables rest
  kept : ∀ text, tables.lower text = [] → text = []
  letters : ∀ text, (∀ byte ∈ text, 0x80 ≤ byte) → ∀ byte ∈ tables.lower text,
    byte < 0x80 → 0x61 ≤ byte ∧ byte ≤ 0x7a

end UnicodeTables

theorem toLower_bytewise (text : GoString) : toLower bytewiseTables text = text.map lowerByte := by
  rw [toLower]
  split <;> rfl

variable {byte : UInt8}

theorem lowerByte_high (high : 0x80 ≤ byte) : lowerByte byte = byte := by
  rw [lowerByte, if_neg]
  rintro ⟨_, small⟩
  exact absurd (UInt8.le_trans high small) (by decide)

theorem lowerByte_ascii (low : lowerByte byte < 0x80) : byte < 0x80 := by
  by_contra high
  have above : 0x80 ≤ byte := UInt8.not_lt.mp high
  rw [lowerByte_high above] at low
  exact high low

theorem ascii_lowerByte (low : byte < 0x80) : lowerByte byte < 0x80 := by
  grind [lowerByte]

theorem eq_of_lowerByte {plain : UInt8} (unlettered : ¬(0x61 ≤ plain ∧ plain ≤ 0x7a))
    (lowered : lowerByte byte = plain) : byte = plain := by
  grind [lowerByte]

theorem split_high (text : GoString) :
    (∀ byte ∈ text, 0x80 ≤ byte) ∨ ∃ high byte rest, text = high ++ byte :: rest ∧
      (∀ byte ∈ high, 0x80 ≤ byte) ∧ byte < 0x80 := by
  induction text with
  | nil => exact .inl nofun
  | cons first text ih =>
    by_cases low : first < 0x80
    · exact .inr ⟨[], first, text, rfl, nofun, low⟩
    have above : 0x80 ≤ first := UInt8.not_lt.mp low
    rcases ih with all | ⟨high, byte, rest, joined, some, small⟩
    · exact .inl (forall_mem_cons.mpr ⟨above, all⟩)
    · refine .inr ⟨first :: high, byte, rest, ?_, forall_mem_cons.mpr ⟨above, some⟩, small⟩
      rw [joined, cons_append]

theorem bytewiseTables_runewise : bytewiseTables.Runewise where
  ascii := by
    intro front byte rest _
    rw [toLower_bytewise, toLower_bytewise, toLower_bytewise, map_append, map_cons]
  kept := by
    intro text none
    exact map_eq_nil_iff.mp none
  letters := by
    intro text high byte member low
    have ⟨source, listed, lowered⟩ := mem_map.mp member
    rw [lowerByte_high (high source listed)] at lowered
    rw [lowered] at listed
    exact absurd low (UInt8.not_lt.mpr (high byte listed))

namespace UnicodeTables.Runewise

variable {tables : UnicodeTables} (runewise : tables.Runewise)

include runewise

theorem toLower_eq_nil {text : GoString} (none : toLower tables text = []) : text = [] := by
  rw [toLower] at none
  split at none
  · exact map_eq_nil_iff.mp none
  · exact runewise.kept text none

variable {byte : UInt8}

theorem toLower_cons (low : byte < 0x80) (rest : GoString) :
    toLower tables (byte :: rest) = lowerByte byte :: toLower tables rest :=
  runewise.ascii [] byte rest low

theorem toLower_high {high : GoString} (above : ∀ byte ∈ high, 0x80 ≤ byte)
    (member : byte ∈ toLower tables high) (low : byte < 0x80) : 0x61 ≤ byte ∧ byte ≤ 0x7a := by
  rw [toLower] at member
  split at member
  · rename_i ascii
    have ⟨source, listed, _⟩ := mem_map.mp member
    have small : source < 0x80 := by simpa using all_eq_true.mp ascii source listed
    exact absurd small (UInt8.not_lt.mpr (above source listed))
  · exact runewise.letters high above byte member low

theorem of_toLower_append (low : byte < 0x80)
    (unlettered : ¬(0x61 ≤ byte ∧ byte ≤ 0x7a)) (text front rest : GoString)
    (lowered : toLower tables text = front ++ byte :: rest) :
    ∃ before after, text = before ++ byte :: after ∧ toLower tables before = front ∧
      toLower tables after = rest := by
  induction size : text.length using Nat.strongRecOn generalizing text front with
  | _ count ih =>
    have notHigh : ∀ high : GoString, (∀ byte ∈ high, 0x80 ≤ byte) →
        byte ∉ toLower tables high := by
      intro high above member
      exact unlettered (runewise.toLower_high above member low)
    rcases split_high text with above | ⟨high, first, tail, joined, above, small⟩
    · refine absurd ?_ (notHigh text above)
      rw [lowered]
      exact mem_append_right front mem_cons_self
    · rw [joined, runewise.ascii high first tail small] at lowered
      rcases append_eq_append_iff.mp lowered with ⟨more, fronts, rests⟩ | ⟨more, highs, rests⟩
      · cases more with
        | nil =>
          have ⟨same, tails⟩ := cons.inj rests
          refine ⟨high, tail, ?_, ?_, tails⟩
          · rw [joined, eq_of_lowerByte unlettered same]
          · rw [fronts, append_nil]
        | cons next later =>
          have ⟨same, tails⟩ := cons.inj rests
          have shorter : tail.length < count := by
            rw [← size, joined, length_append, length_cons]
            omega
          have ⟨before, after, split, befores, afters⟩ :=
            ih tail.length shorter tail later tails rfl
          refine ⟨high ++ first :: before, after, ?_, ?_, afters⟩
          · rw [joined, split, append_assoc, cons_append]
          · rw [runewise.ascii high first before small, befores, fronts, same]
      · cases more with
        | nil =>
          have ⟨same, tails⟩ := cons.inj rests
          refine ⟨high, tail, ?_, ?_, tails.symm⟩
          · rw [joined, eq_of_lowerByte unlettered same.symm]
          · rw [highs, append_nil]
        | cons next later =>
          refine absurd ?_ (notHigh high above)
          rw [highs, (cons.inj rests).1]
          exact mem_append_right front mem_cons_self

theorem of_toLower_cons {text rest : GoString} (low : byte < 0x80)
    (unlettered : ¬(0x61 ≤ byte ∧ byte ≤ 0x7a)) (lowered : toLower tables text = byte :: rest) :
    ∃ tail, text = byte :: tail ∧ toLower tables tail = rest := by
  have ⟨before, after, split, blank, rests⟩ :=
    runewise.of_toLower_append low unlettered text [] rest lowered
  refine ⟨after, ?_, rests⟩
  rw [split, runewise.toLower_eq_nil blank]
  rfl

theorem toLower_congr (text other : GoString) (same : text.map lowerByte = other.map lowerByte) :
    toLower tables text = toLower tables other := by
  induction count : text.length using Nat.strongRecOn generalizing text other with
  | _ count ih =>
    rcases split_high text with above | ⟨high, byte, rest, joined, above, small⟩
    · have equal : text = other := by
        apply ext_getElem (by simpa using congrArg length same)
        intro index inside within
        have bytes : lowerByte text[index] = lowerByte other[index] := by
          have same := congrArg (fun bytes => bytes[index]?) same
          simpa [inside, within] using same
        have high := above text[index] (getElem_mem inside)
        rw [lowerByte_high high] at bytes
        have otherHigh : 0x80 ≤ other[index] := by
          by_contra low
          have lowered := ascii_lowerByte (UInt8.not_le.mp low)
          rw [← bytes] at lowered
          exact absurd lowered (UInt8.not_lt.mpr high)
        rw [lowerByte_high otherHigh] at bytes
        exact bytes
      rw [equal]
    · rw [joined, map_append] at same
      have ⟨front, behind, split, fronts, tails⟩ := map_eq_append_iff.mp same.symm
      have ⟨byte', rest', parts, bytes, rests⟩ := map_eq_cons_iff.mp tails
      have small' : byte' < 0x80 := by
        apply lowerByte_ascii
        rw [bytes]
        exact ascii_lowerByte small
      have length : text.length = high.length + (rest.length + 1) := by
        rw [joined, length_append, length_cons]
      rw [joined, split, parts, runewise.ascii _ _ _ small, runewise.ascii _ _ _ small', bytes,
        ih high.length (by omega) high front fronts.symm rfl,
        ih rest.length (by omega) rest rest' rests.symm rfl]

theorem trimLead_toLower (text : GoString) :
    trimLead (toLower tables text) (lit "+.") = toLower tables (trimLead text (lit "+.")) := by
  have marks : lit "+." = [0x2b, 0x2e] := rfl
  by_cases starts : lit "+." <+: text
  · have ⟨rest, joined⟩ := starts
    have lowered : toLower tables (lit "+." ++ rest) = lit "+." ++ toLower tables rest := by
      rw [marks, cons_append, singleton_append, runewise.toLower_cons (by decide),
        runewise.toLower_cons (by decide)]
      rfl
    rw [← joined, lowered, trimLead_append, trimLead_append]
  · have lowered : ¬lit "+." <+: toLower tables text := by
      rintro ⟨rest, joined⟩
      have ⟨tail, first, later⟩ :=
        runewise.of_toLower_cons (by decide) (by decide) joined.symm
      have ⟨others, second, _⟩ := runewise.of_toLower_cons (by decide) (by decide) later
      apply starts
      rw [first, second]
      exact ⟨others, rfl⟩
    rw [trimLead_of_not lowered, trimLead_of_not starts]

theorem trimTail_toLower (text : GoString) :
    trimTail (toLower tables text) (lit ".") = toLower tables (trimTail text (lit ".")) := by
  by_cases ends : lit "." <:+ text
  · have ⟨front, joined⟩ := ends
    have lowered : toLower tables (front ++ lit ".") = toLower tables front ++ lit "." :=
      runewise.ascii front dot [] (by decide)
    rw [← joined, lowered, trimTail_append, trimTail_append]
  · have unended : ¬lit "." <:+ toLower tables text := by
      rintro ⟨front, joined⟩
      have marked : toLower tables text = front ++ dot :: [] := joined.symm
      have ⟨before, after, split, _, blank⟩ :=
        runewise.of_toLower_append (by decide) (by decide) text front [] marked
      apply ends
      rw [split, runewise.toLower_eq_nil blank]
      exact suffix_append ..
    rw [trimTail_of_not unended, trimTail_of_not ends]

end UnicodeTables.Runewise

/-! ## Names that end other names -/

theorem trimLead_behind (front text : GoString) :
    trimLead (front ++ dot :: text) (lit "+.") = text ∨
      ∃ rest, trimLead (front ++ dot :: text) (lit "+.") = rest ++ dot :: text := by
  by_cases starts : lit "+." <+: front ++ dot :: text
  · have ⟨tail, joined⟩ := starts
    rw [← joined]
    match front with
    | [] => cases (cons.inj joined).1
    | [_] => exact .inl (cons.inj (cons.inj joined).2).2
    | _ :: _ :: rest => exact .inr ⟨rest, (cons.inj (cons.inj joined).2).2⟩
  · rw [trimLead_of_not starts]
    exact .inr ⟨front, rfl⟩

theorem labels_suffix_trimmed {text whole : GoString} (some : text ≠ []) (apart : text ≠ lit "+.")
    (ends : splitByte dot text <:+ splitByte dot whole) :
    splitByte dot (trimTail (trimLead text (lit "+.")) (lit ".")) <:+
      splitByte dot (trimTail (trimLead whole (lit "+.")) (lit ".")) := by
  have labels {short long : GoString} (same : short = long) :
      splitByte dot (trimTail short (lit ".")) <:+ splitByte dot (trimTail long (lit ".")) :=
    same ▸ suffix_rfl
  rcases (splitByte_suffix_iff dot text whole).mp ends with same | ⟨front, joined⟩
  · exact same ▸ suffix_rfl
  have undotted : splitByte dot (trimTail text (lit ".")) <:+
      splitByte dot (trimTail (trimLead whole (lit "+.")) (lit ".")) := by
    rw [← joined]
    rcases trimLead_behind front text with bare | ⟨rest, behind⟩
    · exact labels bare.symm
    have shifted : rest ++ dot :: text = (rest ++ [dot]) ++ text := by
      rw [append_assoc, singleton_append]
    rw [behind, shifted, trimTail_behind _ some, append_assoc, singleton_append, splitByte_append]
    exact suffix_append ..
  refine List.IsSuffix.trans ?_ undotted
  by_cases starts : lit "+." <+: text
  · have ⟨rest, led⟩ := starts
    have more : rest ≠ [] := by
      intro none
      rw [none] at led
      exact apart led.symm
    have marks : lit "+." ++ trimTail rest (lit ".") = [0x2b] ++ dot :: trimTail rest (lit ".") :=
      rfl
    rw [← led, trimTail_behind _ more, marks, splitByte_append]
    exact suffix_append ..
  · exact labels (trimLead_of_not starts)

end Shuttle.Go
