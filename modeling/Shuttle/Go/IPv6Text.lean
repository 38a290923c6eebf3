import Mathlib.Data.List.TakeWhile
import Shuttle.Go.Format

/-!
# Printed IPv6 addresses are read back

`IP.String` prints eight hexadecimal groups and replaces the longest run of zero groups by two
colons; `net.ParseIP` reads the groups one by one, remembers where the two colons stood and fills
in the zeros at the end. Together with dotted decimal, every address of four or sixteen bytes
is read back as its sixteen-byte form.
-/

namespace Shuttle.Go

open List

/-! ## Groups -/

def groupBytes (group : Nat) : List UInt8 := [UInt8.ofNat (group / 256), UInt8.ofNat group]

theorem flatMap_groupBytes_length (groups : List Nat) :
    (groups.flatMap groupBytes).length = 2 * groups.length := by
  induction groups with
  | nil => rfl
  | cons group groups ih =>
    rw [flatMap_cons, length_append, groupBytes]
    simp only [length_cons, length_nil]
    omega

theorem flatMap_groupBytes_zero (count : Nat) :
    (replicate count 0).flatMap groupBytes = replicate (2 * count) 0 := by
  induction count with
  | zero => rfl
  | succ count ih =>
    rw [replicate_succ, flatMap_cons, ih, Nat.mul_succ]
    rfl

theorem groupsOf_spec (count : Nat) : ∀ {bytes : IP}, bytes.length = 2 * count →
    (∀ group ∈ groupsOf bytes, group < 65536) ∧ (groupsOf bytes).flatMap groupBytes = bytes := by
  induction count with
  | zero =>
    intro bytes empty
    rw [eq_nil_of_length_eq_zero empty]
    exact ⟨nofun, rfl⟩
  | succ count ih =>
    intro bytes length
    match bytes with
    | [] => cases length
    | [_] =>
      rw [length_singleton] at length
      omega
    | high :: low :: rest =>
      rw [length_cons, length_cons] at length
      have ⟨small, whole⟩ := @ih rest (by omega)
      have highFits := high.toNat_lt
      have lowFits := low.toNat_lt
      have quotient : (high.toNat * 256 + low.toNat) / 256 = high.toNat := by omega
      have remainder : UInt8.ofNat (high.toNat * 256 + low.toNat) = low := by
        apply UInt8.toNat_inj.mp
        rw [UInt8.toNat_ofNat']
        omega
      rw [groupsOf]
      constructor
      · intro group member
        rcases mem_cons.mp member with same | later
        · omega
        · exact small group later
      · rw [flatMap_cons, whole, groupBytes, quotient, UInt8.ofNat_toNat, remainder]
        rfl

/-! ## Reading groups -/

theorem hexDigit_digitByte {digit : Nat} (small : digit < 16) :
    hexDigit (digitByte digit) = some digit := by
  have all : ∀ digit : Fin 16, hexDigit (digitByte digit.val) = some digit.val := by decide
  exact all ⟨digit, small⟩

theorem parseGroup_digit {byte : UInt8} {digit : Nat} (read : hexDigit byte = some digit)
    {digits : Nat} (space : ¬3 < digits) {value : Nat} {rest : GoString} :
    parseGroup (byte :: rest) digits value = parseGroup rest (digits + 1) (value * 16 + digit) := by
  rw [parseGroup, read]
  exact if_neg space

variable {group : Nat} {first : UInt8} {more : GoString}

theorem parseGroup_digits (fits : group < 65536) (rest : GoString) :
    ∃ count, (0 < group → 16 ^ count ≤ group) ∧
      parseGroup (formatHex group ++ rest) 0 0 = parseGroup rest (count + 1) group := by
  have within : group < 16 ^ 16 := by omega
  unfold formatHex
  revert fits rest
  refine formatWithin_induction (by decide) ?_ ?_ (by decide) within
  · intro digit low _ rest
    refine ⟨0, id, ?_⟩
    rw [singleton_append, parseGroup_digit (hexDigit_digitByte low) (by decide), Nat.zero_mul,
      Nat.zero_add, Nat.zero_add]
  · intro front text digit positive low ih fits rest
    have ⟨count, least, read⟩ := ih (by omega) (digitByte digit :: rest)
    have wide := least positive
    have room : ¬3 < count + 1 := by
      intro many
      have more : 16 ^ 3 ≤ 16 ^ count := Nat.pow_le_pow_right (by decide) (by omega)
      omega
    refine ⟨count + 1, fun _ => by rw [Nat.pow_succ]; omega, ?_⟩
    rw [append_assoc, singleton_append, read, parseGroup_digit (hexDigit_digitByte low) room]

theorem parseGroup_formatHex (fits : group < 65536) {rest : GoString}
    (stops : ∀ byte ∈ rest.head?, hexDigit byte = none) :
    ∃ digits, digits ≠ 0 ∧
      parseGroup (formatHex group ++ rest) 0 0 = some (digits, group, rest) := by
  have ⟨count, _, read⟩ := parseGroup_digits fits rest
  refine ⟨count + 1, by omega, ?_⟩
  rw [read]
  cases rest with
  | nil => rfl
  | cons byte rest =>
    rw [parseGroup, stops byte rfl]

theorem parseGroup_colon (fits : group < 65536) (rest : GoString) :
    ∃ digits, digits ≠ 0 ∧
      parseGroup (formatHex group ++ colon :: rest) 0 0 = some (digits, group, colon :: rest) := by
  apply parseGroup_formatHex fits
  intro byte head
  cases head
  decide

theorem formatHex_cons (group : Nat) :
    ∃ first more, formatHex group = first :: more ∧ first ≠ colon := by
  have digits : formatHex group ≠ [] := formatWithin_ne_nil 16 15 group
  have ⟨first, more, same⟩ := exists_cons_of_ne_nil digits
  refine ⟨first, more, same, ?_⟩
  have member : first ∈ formatHex group := by
    rw [same]
    exact mem_cons_self
  exact (formatHex_unmarked member).1

theorem joinByte_cons (group : Nat) (groups : List Nat) :
    ∃ first more, joinByte colon ((group :: groups).map formatHex) = first :: more ∧
      first ≠ colon := by
  have ⟨first, more, same, other⟩ := formatHex_cons group
  cases groups with
  | nil => exact ⟨first, more, same, other⟩
  | cons next rest =>
    refine ⟨first, more ++ colon :: joinByte colon ((next :: rest).map formatHex), ?_, other⟩
    rw [map_cons, map_cons, joinByte, same, cons_append]

theorem parseGroups_next (fits : group < 65536)
    (other : first ≠ colon) (limit : Nat) (bytes : List UInt8) (ellipsis : Option Nat) :
    parseGroups (limit + 1) (formatHex group ++ colon :: first :: more) bytes ellipsis =
      parseGroups limit (first :: more) (bytes ++ groupBytes group) ellipsis := by
  have ⟨digits, several, read⟩ := parseGroup_colon fits (first :: more)
  rw [parseGroups, read]
  dsimp only
  rw [if_neg several, if_pos other]
  rfl

theorem parseGroups_join (groups : List Nat) :
    ∀ {limit : Nat} {bytes : List UInt8} {ellipsis : Option Nat}, groups ≠ [] →
      groups.length ≤ limit → (∀ group ∈ groups, group < 65536) →
      parseGroups limit (joinByte colon (groups.map formatHex)) bytes ellipsis =
        some ([], bytes ++ groups.flatMap groupBytes, ellipsis) := by
  induction groups with
  | nil =>
    intro limit bytes ellipsis given
    exact absurd rfl given
  | cons group groups ih =>
    intro limit bytes ellipsis _ room small
    have fits := small group mem_cons_self
    cases limit with
    | zero => cases room
    | succ limit =>
      cases groups with
      | nil =>
        have ⟨digits, several, read⟩ := @parseGroup_formatHex group fits [] nofun
        rw [append_nil] at read
        rw [map_singleton, joinByte, parseGroups, read]
        dsimp only
        rw [if_neg several]
        rfl
      | cons next rest =>
        have later := @ih limit (bytes ++ groupBytes group) ellipsis (cons_ne_nil _ _)
          (Nat.le_of_succ_le_succ room)
          (fun other member => small other (mem_cons_of_mem _ member))
        have ⟨first, more, same, other⟩ := joinByte_cons next rest
        rw [map_cons] at same
        rw [map_cons, same] at later
        rw [map_cons, map_cons, joinByte, same, parseGroups_next fits other, later,
          @List.flatMap_cons _ _ group, append_assoc]

theorem parseGroups_ellipsis (back : List Nat) (backSmall : ∀ group ∈ back, group < 65536)
    (front : List Nat) :
    ∀ {limit : Nat} {bytes : List UInt8}, front ≠ [] → front.length + back.length ≤ limit →
      (∀ group ∈ front, group < 65536) →
      parseGroups limit (joinByte colon (front.map formatHex) ++ [colon, colon] ++
          joinByte colon (back.map formatHex)) bytes none =
        some ([], bytes ++ front.flatMap groupBytes ++ back.flatMap groupBytes,
          some (bytes ++ front.flatMap groupBytes).length) := by
  induction front with
  | nil =>
    intro limit bytes given
    exact absurd rfl given
  | cons group groups ih =>
    intro limit bytes _ room small
    have fits := small group mem_cons_self
    rw [length_cons] at room
    cases limit with
    | zero => omega
    | succ limit =>
      cases groups with
      | nil =>
        have ⟨digits, several, read⟩ := parseGroup_colon fits
          (colon :: joinByte colon (back.map formatHex))
        rw [map_singleton, joinByte, append_assoc, cons_append, cons_append,
          nil_append, parseGroups, read]
        dsimp only
        rw [if_neg several]
        cases back with
        | nil => rw [map_nil, joinByte, flatMap_nil, append_nil]; rfl
        | cons next rest =>
          have ⟨first, more, same, _⟩ := joinByte_cons next rest
          have given : joinByte colon ((next :: rest).map formatHex) ≠ [] := by
            rw [same]
            exact cons_ne_nil _ _
          rw [if_neg given, parseGroups_join (next :: rest) (cons_ne_nil _ _) (by omega)
            backSmall]
          rfl
      | cons next rest =>
        have later := @ih limit (bytes ++ groupBytes group) (cons_ne_nil _ _) (by omega)
          (fun other member => small other (mem_cons_of_mem _ member))
        have ⟨first, more, same, other⟩ := joinByte_cons next rest
        rw [map_cons] at same
        rw [map_cons, same, cons_append, cons_append] at later
        rw [map_cons, map_cons, joinByte, same, append_assoc, append_assoc,
          cons_append, cons_append, ← append_assoc more,
          parseGroups_next fits other, later, @List.flatMap_cons _ _ group, append_assoc bytes]

/-! ## The zero run -/

theorem longestZeroRun_spec {groups : List Nat} (given : (longestZeroRun groups).2 ≠ 0) :
    2 ≤ (longestZeroRun groups).2 ∧
      (longestZeroRun groups).1 + (longestZeroRun groups).2 ≤ groups.length ∧
      (groups.drop (longestZeroRun groups).1).take (longestZeroRun groups).2 =
        replicate (longestZeroRun groups).2 0 := by
  revert given
  apply foldlRecOn (motive := fun best : Nat × Nat => best.2 ≠ 0 → 2 ≤ best.2 ∧
    best.1 + best.2 ≤ groups.length ∧
    (groups.drop best.1).take best.2 = replicate best.2 0)
  · exact fun none => absurd rfl none
  · intro best good start _
    dsimp only
    split
    · rename_i longer
      intro _
      have zeros := takeWhile_prefix (l := groups.drop start) (· == 0)
      have within := zeros.length_le
      rw [length_drop] at within
      refine ⟨longer.1, by omega, ?_⟩
      rw [← prefix_iff_eq_take.mp zeros, eq_replicate_iff]
      refine ⟨rfl, fun group member => ?_⟩
      have zero := @List.mem_takeWhile_imp _ (· == 0) _ _ member
      exact beq_iff_eq.mp zero
    · exact good

theorem not_doubled (other : first ≠ colon) (more : GoString) :
    (lit "::").isPrefixOf (first :: more) = false := by
  have doubled : lit "::" = [colon, colon] := by decide
  rw [doubled, isPrefixOf_cons_cons, Bool.and_eq_false_imp]
  intro same
  exact absurd (beq_iff_eq.mp same).symm other

theorem parseIPv6Bytes_plain (other : first ≠ colon)
    {bytes : List UInt8} (read : parseGroups 8 (first :: more) [] none = some ([], bytes, none))
    (long : 16 ≤ bytes.length) : parseIPv6Bytes (first :: more) = some bytes := by
  have enough : ¬bytes.length < 16 := by omega
  rw [parseIPv6Bytes, not_doubled other more]
  rw [if_neg Bool.false_ne_true, if_neg (fun start => nomatch start.1), read]
  dsimp only
  rw [if_neg (not_not.mpr rfl), if_neg enough]

theorem parseIPv6Bytes_ellipsis (other : first ≠ colon) {front back : List UInt8} {gap : Nat}
    (read : parseGroups 8 (first :: more) [] none = some ([], front ++ back, some front.length))
    (short : 0 < gap) (sum : front.length + back.length + gap = 16) :
    parseIPv6Bytes (first :: more) = some (front ++ (replicate gap 0 ++ back)) := by
  have length : (front ++ back).length = front.length + back.length := length_append
  have few : (front ++ back).length < 16 := by omega
  have missing : 16 - (front ++ back).length = gap := by omega
  rw [parseIPv6Bytes, not_doubled other more]
  rw [if_neg Bool.false_ne_true, if_neg (fun start => nomatch start.1), read]
  dsimp only
  rw [if_neg (not_not.mpr rfl), if_pos few, missing, take_left, drop_left,
    append_assoc]

theorem parseIPv6Bytes_leading {text : GoString} (given : text ≠ []) {back : List UInt8} {gap : Nat}
    (read : parseGroups 8 text [] (some 0) = some ([], back, some 0)) (short : 0 < gap)
    (sum : back.length + gap = 16) :
    parseIPv6Bytes (colon :: colon :: text) = some (replicate gap 0 ++ back) := by
  have opened : (lit "::").isPrefixOf (colon :: colon :: text) = true := by
    rfl
  have few : back.length < 16 := by omega
  have missing : 16 - back.length = gap := by omega
  have behind : (colon :: colon :: text).drop 2 = text := rfl
  rw [parseIPv6Bytes, opened]
  rw [if_pos rfl]
  rw [behind, if_neg (fun none => given none.2), read]
  dsimp only
  rw [if_neg (not_not.mpr rfl), if_pos few, missing, take_zero, drop_zero,
    nil_append]

theorem parseIPv6Bytes_ipv6String {groups : List Nat} (eight : groups.length = 8)
    (small : ∀ group ∈ groups, group < 65536) :
    parseIPv6Bytes (ipv6String groups) = some (groups.flatMap groupBytes) := by
  unfold ipv6String
  by_cases plain : (longestZeroRun groups).2 = 0
  · rw [if_pos plain]
    have given : groups ≠ [] := by
      intro none
      rw [none] at eight
      cases eight
    have read := @parseGroups_join groups 8 [] none given (by omega) small
    have ⟨group, rest, split⟩ := exists_cons_of_ne_nil given
    have ⟨first, more, same, other⟩ := joinByte_cons group rest
    have length := flatMap_groupBytes_length groups
    rw [← split] at same
    rw [same] at read ⊢
    exact parseIPv6Bytes_plain other read (by omega)
  · rw [if_neg plain]
    have ⟨several, within, zeros⟩ := longestZeroRun_spec plain
    generalize (longestZeroRun groups).1 = start at *
    generalize (longestZeroRun groups).2 = run at *
    have split : groups =
        groups.take start ++ (replicate run 0 ++ groups.drop (start + run)) := by
      rw [← zeros, ← drop_drop, take_append_drop, take_append_drop]
    have frontLength : (groups.take start).length = start := by
      rw [length_take]
      omega
    have backLength : (groups.drop (start + run)).length = 8 - (start + run) := by
      rw [length_drop, eight]
    have frontSmall : ∀ group ∈ groups.take start, group < 65536 :=
      fun group member => small group (mem_of_mem_take member)
    have backSmall : ∀ group ∈ groups.drop (start + run), group < 65536 :=
      fun group member => small group (mem_of_mem_drop member)
    have bytes : groups.flatMap groupBytes = (groups.take start).flatMap groupBytes ++
        (replicate (2 * run) 0 ++ (groups.drop (start + run)).flatMap groupBytes) := by
      conv => lhs; rw [split]
      rw [flatMap_append, flatMap_append, flatMap_groupBytes_zero]
    rw [bytes]
    generalize groups.take start = front at *
    generalize groups.drop (start + run) = back at *
    have frontBytes := flatMap_groupBytes_length front
    have backBytes := flatMap_groupBytes_length back
    cases front with
    | nil =>
      rw [length_nil] at frontLength
      cases back with
      | nil =>
        rw [length_nil] at backLength
        have whole : 2 * run = 16 := by omega
        rw [whole]
        decide
      | cons group rest =>
        have ⟨first, more, same, other⟩ := joinByte_cons group rest
        have given : joinByte colon ((group :: rest).map formatHex) ≠ [] := by
          rw [same]
          exact cons_ne_nil _ _
        have read := @parseGroups_join (group :: rest) 8 [] (some 0) (cons_ne_nil _ _)
          (by omega) backSmall
        exact parseIPv6Bytes_leading given read (by omega) (by omega)
    | cons group rest =>
      have ⟨first, more, same, other⟩ := joinByte_cons group rest
      have read := @parseGroups_ellipsis back backSmall (group :: rest) 8 []
        (cons_ne_nil _ _) (by omega) frontSmall
      rw [same] at read ⊢
      exact parseIPv6Bytes_ellipsis other read (by omega) (by omega)

theorem parseIP_ipString_long {ip : IP} (long : to4 ip = none) (sixteen : ip.length = 16) :
    parseIP (ipString ip) = some ip := by
  have ⟨small, whole⟩ := @groupsOf_spec 8 ip sixteen
  have eight := @groupsOf_length 8 ip sixteen
  have read := parseIPv6Bytes_ipv6String eight small
  have marked : (ipv6String (groupsOf ip)).find?
      (fun byte => byte == dot || byte == colon || byte == 0x25) = some colon := by
    cases found : (ipv6String (groupsOf ip)).find?
        (fun byte => byte == dot || byte == colon || byte == 0x25) with
    | none =>
      have absent := find?_eq_none.mp found colon
        (@colon_mem_ipv6String (groupsOf ip) (by omega))
      exact absurd (by decide) absent
    | some byte =>
      have ⟨notDot, notPercent, _⟩ := ipv6String_unmarked (mem_of_find?_eq_some found)
      have mark := find?_some found
      simp only [Bool.or_eq_true, beq_iff_eq, notDot, notPercent, false_or, or_false] at mark
      rw [mark]
  have zoneless : indexByte (ipv6String (groupsOf ip)) 0x25 = none := by
    rw [indexByte_none_iff]
    intro member
    exact (ipv6String_unmarked member).2.1 rfl
  have bound : ofBe ip < 2 ^ 128 := by
    have below := ofBe_lt ip
    rw [sixteen] at below
    exact below
  have bytes : beBytes 16 (BitVec.ofNat 128 (ofBe ip)).toNat = ip := by
    have back := beBytes_ofBe ip
    rw [sixteen] at back
    rw [BitVec.toNat_ofNat, Nat.mod_eq_of_lt bound, back]
  have apart : colon ≠ dot := by decide
  rw [ipString_long long sixteen, parseIP, parseAddr, marked]
  dsimp only
  rw [if_neg apart, if_pos rfl, parseIPv6, zoneless]
  rw [read, whole, Option.map_some]
  dsimp only
  rw [Addr.zone, if_pos rfl, Addr.as16, bytes]

theorem parseIP_opened (rest : GoString) : parseIP (0x5b :: rest) = none := by
  have four : parseIPv4 (0x5b :: rest) = none := rfl
  have six : parseIPv6 (0x5b :: rest) = none := by
    rw [parseIPv6]
    split
    · rfl
    rename_i position _
    dsimp only
    split
    · rfl
    cases position with
    | zero => rfl
    | succ position =>
      rfl
  have address : parseAddr (0x5b :: rest) = none := by
    rw [parseAddr, four, six]
    split
    · rfl
    · rw [ite_self, ite_self]
  rw [parseIP, address]

end Shuttle.Go
