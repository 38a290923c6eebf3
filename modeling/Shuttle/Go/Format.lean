import Shuttle.Go.Net

/-!
# Printed numbers, addresses and host-port pairs

What the programs print and parse again: decimal and hexadecimal numbers as `strconv` and `fmt`
write them, `IP.String` with the zero run of an IPv6 address shortened, and `net.JoinHostPort`.
The results say which printed forms `net.SplitHostPort` and `net.ParseIP` read back.
-/

namespace Shuttle.Go

open List Option

/-! ## Numbers -/

def digitByte (digit : Nat) : UInt8 :=
  if digit < 10 then UInt8.ofNat (0x30 + digit) else UInt8.ofNat (0x57 + digit)

/-- The digits of a number without leading zeros, at most `width` of them. -/
def formatWithin (base : Nat) : Nat → Nat → GoString
  | 0, _ => []
  | width + 1, value =>
    if value < base then [digitByte value]
    else formatWithin base width (value / base) ++ [digitByte (value % base)]

variable {base value digit : Nat} {byte : UInt8} {ip four : IP} {groups : List Nat}
  {host port : GoString}

theorem formatWithin_low (low : value < base) (width : Nat) :
    formatWithin base (width + 1) value = [digitByte value] := by
  rw [formatWithin, if_pos low]

theorem formatWithin_high (high : ¬value < base) (width : Nat) :
    formatWithin base (width + 1) value =
      formatWithin base width (value / base) ++ [digitByte (value % base)] := by
  rw [formatWithin, if_neg high]

theorem formatWithin_ne_nil (base width value : Nat) :
    formatWithin base (width + 1) value ≠ [] := by
  by_cases low : value < base
  · rw [formatWithin_low low]
    exact cons_ne_nil _ _
  · rw [formatWithin_high low]
    exact append_ne_nil_of_right_ne_nil _ (cons_ne_nil _ _)

/-- Induction on the digits of a number. -/
@[elab_as_elim]
theorem formatWithin_induction {motive : Nat → GoString → Prop} (positive : 0 < base)
    (one : ∀ digit < base, motive digit [digitByte digit])
    (more : ∀ front text digit, 0 < front → digit < base → motive front text →
      motive (front * base + digit) (text ++ [digitByte digit]))
    {width : Nat} (several : 0 < width) (fits : value < base ^ width) :
    motive value (formatWithin base width value) := by
  induction width generalizing value with
  | zero => cases several
  | succ width ih =>
    by_cases low : value < base
    · rw [formatWithin_low low]
      exact one value low
    · rw [formatWithin_high low]
      rw [Nat.pow_succ] at fits
      have wide : 0 < width := by
        rcases Nat.eq_zero_or_pos width with rfl | wide
        · rw [Nat.pow_zero, Nat.one_mul] at fits
          exact absurd fits low
        · exact wide
      have whole := more _ _ _ (Nat.div_pos (Nat.le_of_not_lt low) positive)
        (Nat.mod_lt value positive) (ih wide (Nat.div_lt_of_lt_mul (Nat.mul_comm .. ▸ fits)))
      rw [Nat.div_add_mod'] at whole
      exact whole

/-- A number in decimal, as the verb `%d` prints it; twenty digits hold every machine word. -/
def formatDecimal (value : Nat) : GoString := formatWithin 10 20 value

def formatHex (value : Nat) : GoString := formatWithin 16 16 value

theorem mem_formatWithin (positive : 0 < base) (small : base ≤ 16) (width : Nat) (value)
    (member : byte ∈ formatWithin base width value) : ∃ digit < 16, byte = digitByte digit := by
  induction width generalizing value with
  | zero =>
    exact absurd member not_mem_nil
  | succ width ih =>
    rw [formatWithin] at member
    split at member
    · exact ⟨value, by omega, mem_singleton.mp member⟩
    rcases mem_append.mp member with high | last
    · exact ih _ high
    · have bound := Nat.mod_lt value positive
      exact ⟨value % base, by omega, mem_singleton.mp last⟩

/-- No mark of an address. -/
abbrev Inner (byte : UInt8) : Prop :=
  byte ≠ colon ∧ byte ≠ dot ∧ byte ≠ 0x25 ∧ byte ≠ 0x5b ∧ byte ≠ 0x5d

theorem digitByte_unmarked (small : digit < 16) : Inner (digitByte digit) := by
  have all : ∀ digit : Fin 16, Inner (digitByte digit.val) := by decide
  exact all ⟨digit, small⟩

theorem decimalDigit_digitByte (small : digit < 10) :
    decimalDigit (digitByte digit) = some digit := by
  have all : ∀ digit : Fin 10, decimalDigit (digitByte digit.val) = some digit.val := by decide
  exact all ⟨digit, small⟩

theorem formatDecimal_unmarked (member : byte ∈ formatDecimal value) : Inner byte := by
  have ⟨digit, small, same⟩ := mem_formatWithin (by decide) (by decide) 20 value member
  rw [same]
  exact digitByte_unmarked small

theorem formatHex_unmarked (member : byte ∈ formatHex value) : Inner byte := by
  have ⟨digit, small, same⟩ := mem_formatWithin (by decide) (by decide) 16 value member
  rw [same]
  exact digitByte_unmarked small

/-! ## Addresses -/

def joinByte (separator : UInt8) : List GoString → GoString
  | [] => []
  | [text] => text
  | text :: next :: rest => text ++ separator :: joinByte separator (next :: rest)

theorem mem_joinByte {separator : UInt8} (texts : List GoString)
    (member : byte ∈ joinByte separator texts) :
    byte = separator ∨ ∃ text ∈ texts, byte ∈ text := by
  induction texts with
  | nil => exact absurd member not_mem_nil
  | cons text texts ih =>
    cases texts with
    | nil => exact .inr ⟨text, mem_cons_self, member⟩
    | cons next rest =>
      rcases mem_append.mp member with first | later
      · exact .inr ⟨text, mem_cons_self, first⟩
      rcases mem_cons.mp later with mark | other
      · exact .inl mark
      · rcases ih other with mark | ⟨found, listed, inside⟩
        · exact .inl mark
        · exact .inr ⟨found, mem_cons_of_mem _ listed, inside⟩

def ipv4String (bytes : IP) : GoString :=
  joinByte dot (bytes.map fun byte => formatDecimal byte.toNat)

def groupsOf : IP → List Nat
  | high :: low :: rest => (high.toNat * 256 + low.toNat) :: groupsOf rest
  | _ => []

/-- Start and length of the first longest run of at least two zero groups; no length when there is
none. -/
def longestZeroRun (groups : List Nat) : Nat × Nat :=
  (List.range groups.length).foldl (fun best start =>
    let run := ((groups.drop start).takeWhile (· == 0)).length
    if 2 ≤ run ∧ best.2 < run then (start, run) else best) (0, 0)

/-- Hexadecimal groups between colons, the longest zero run replaced by two colons. -/
def ipv6String (groups : List Nat) : GoString :=
  let run := longestZeroRun groups
  if run.2 = 0 then joinByte colon (groups.map formatHex)
  else joinByte colon ((groups.take run.1).map formatHex) ++ [colon, colon] ++
    joinByte colon ((groups.drop (run.1 + run.2)).map formatHex)

def ipString (ip : IP) : GoString :=
  match to4 ip with
  | some four => ipv4String four
  | none =>
    if ip.length = 16 then ipv6String (groupsOf ip)
    else if ip = [] then lit "<nil>"
    else lit "?" ++ ip.flatMap fun byte =>
      [digitByte (byte.toNat / 16), digitByte (byte.toNat % 16)]

theorem ipString_long (long : to4 ip = none) (sixteen : ip.length = 16) :
    ipString ip = ipv6String (groupsOf ip) := by
  rw [ipString, long]
  exact if_pos sixteen

theorem groupsOf_length (count : Nat) :
    ∀ {bytes : IP}, bytes.length = 2 * count → (groupsOf bytes).length = count := by
  induction count with
  | zero =>
    intro bytes empty
    rw [eq_nil_of_length_eq_zero empty]
    rfl
  | succ count ih =>
    intro bytes length
    match bytes with
    | [] => cases length
    | [_] =>
      rw [length_singleton] at length
      omega
    | high :: low :: rest =>
      rw [length_cons, length_cons] at length
      rw [groupsOf, length_cons, ih (by omega)]

theorem separator_mem_joinByte {separator : UInt8} {texts : List GoString}
    (several : 2 ≤ texts.length) : separator ∈ joinByte separator texts := by
  match texts with
  | [] => cases several
  | [_] =>
    rw [length_singleton] at several
    omega
  | text :: next :: rest => exact mem_append_right text mem_cons_self

theorem colon_mem_ipv6String (several : 2 ≤ groups.length) : colon ∈ ipv6String groups := by
  unfold ipv6String
  dsimp only
  split
  · apply separator_mem_joinByte
    rw [length_map]
    exact several
  · apply mem_append_left
    exact mem_append_right _ mem_cons_self

theorem mem_ipv6String (member : byte ∈ ipv6String groups) :
    byte = colon ∨ ∃ group, byte ∈ formatHex group := by
  have joined (part : List Nat) (inside : byte ∈ joinByte colon (part.map formatHex)) :
      byte = colon ∨ ∃ group, byte ∈ formatHex group := by
    rcases mem_joinByte _ inside with mark | ⟨text, listed, digit⟩
    · exact .inl mark
    · have ⟨group, _, same⟩ := mem_map.mp listed
      rw [← same] at digit
      exact .inr ⟨group, digit⟩
  unfold ipv6String at member
  dsimp only at member
  split at member
  · exact joined _ member
  rcases mem_append.mp member with front | back
  · rcases mem_append.mp front with before | marks
    · exact joined _ before
    · rcases mem_cons.mp marks with first | second
      · exact .inl first
      · exact .inl (mem_singleton.mp second)
  · exact joined _ back

theorem ipv6String_unmarked (member : byte ∈ ipv6String groups) :
    byte ≠ dot ∧ byte ≠ 0x25 ∧ byte ≠ 0x5b ∧ byte ≠ 0x5d := by
  rcases mem_ipv6String member with mark | ⟨group, digit⟩
  · rw [mark]
    decide
  · exact (formatHex_unmarked digit).2

theorem ipv4String_unmarked {bytes : IP} (member : byte ∈ ipv4String bytes) :
    byte ≠ colon ∧ byte ≠ 0x5b ∧ byte ≠ 0x5d := by
  rcases mem_joinByte _ member with mark | ⟨text, listed, digit⟩
  · rw [mark]
    decide
  · have ⟨value, _, same⟩ := mem_map.mp listed
    rw [← same] at digit
    have ⟨colonless, _, _, unbracketed⟩ := formatDecimal_unmarked digit
    exact ⟨colonless, unbracketed⟩

theorem parseIPv4Fields_digit {digits : Nat} (fields : List UInt8) (rest : GoString)
    (small : digit < 10) (leading : ¬(digits = 1 ∧ value = 0)) (fits : value * 10 + digit ≤ 255) :
    parseIPv4Fields (digitByte digit :: rest) value digits fields =
      parseIPv4Fields rest (value * 10 + digit) (digits + 1) fields := by
  rw [parseIPv4Fields, decimalDigit_digitByte small]
  dsimp only
  rw [if_neg leading, if_neg (by omega)]

theorem parseIPv4Fields_byte (byte : UInt8) (fields : List UInt8) (rest : GoString) :
    ∃ digits, digits ≠ 0 ∧
      parseIPv4Fields (formatDecimal byte.toNat ++ rest) 0 0 fields =
        parseIPv4Fields rest byte.toNat digits fields := by
  have bound : byte.toNat < 256 := byte.toNat_lt
  have fits : byte.toNat < 10 ^ 20 := by omega
  unfold formatDecimal
  revert bound rest
  refine formatWithin_induction (by decide) ?_ ?_ (by decide) fits
  · intro digit low rest _
    refine ⟨1, by decide, ?_⟩
    rw [singleton_append, parseIPv4Fields_digit fields rest low (by omega) (by omega), Nat.zero_add]
  · intro front text digit positive low ih rest bound
    have ⟨digits, _, parsed⟩ := ih (digitByte digit :: rest) (by omega)
    refine ⟨digits + 1, by omega, ?_⟩
    rw [append_assoc, singleton_append, parsed,
      parseIPv4Fields_digit fields rest low (by omega) (by omega)]

theorem formatDecimal_ne_nil (value : Nat) : formatDecimal value ≠ [] :=
  formatWithin_ne_nil 10 19 value

theorem parseIPv4Fields_field (byte : UInt8) {fields : List UInt8} {rest : GoString}
    (few : fields.length < 3) (more : rest ≠ []) :
    parseIPv4Fields (formatDecimal byte.toNat ++ dot :: rest) 0 0 fields =
      parseIPv4Fields rest 0 0 (fields ++ [byte]) := by
  have ⟨digits, read, parsed⟩ := parseIPv4Fields_byte byte fields (dot :: rest)
  have mark : decimalDigit dot = none := by decide
  rw [parsed, parseIPv4Fields, mark]
  rw [if_neg (not_not.mpr rfl), if_neg (not_or.mpr ⟨read, more⟩), if_neg (by omega),
    UInt8.ofNat_toNat]

theorem parseIP_ipv4String {bytes : IP} (four : bytes.length = 4) :
    parseIP (ipv4String bytes) = some (v4InV6 ++ bytes) := by
  match bytes, four with
  | [a, b, c, d], _ =>
    have text : ipv4String [a, b, c, d] = formatDecimal a.toNat ++ dot ::
        (formatDecimal b.toNat ++ dot :: (formatDecimal c.toNat ++ dot ::
          formatDecimal d.toNat)) := rfl
    have fields : parseIPv4Fields (ipv4String [a, b, c, d]) 0 0 [] = some [a, b, c, d] := by
      have ⟨digits, read, parsed⟩ := parseIPv4Fields_byte d [a, b, c] []
      have more {front back : GoString} : front ++ dot :: back ≠ [] :=
        append_ne_nil_of_right_ne_nil _ (cons_ne_nil _ _)
      rw [append_nil] at parsed
      rw [text, parseIPv4Fields_field a (by simp) more, parseIPv4Fields_field b (by simp) more,
        parseIPv4Fields_field c (by simp) (formatDecimal_ne_nil _)]
      change parseIPv4Fields (formatDecimal d.toNat) 0 0 [a, b, c] = _
      rw [parsed, parseIPv4Fields, UInt8.ofNat_toNat]
      rfl
    have first : (ipv4String [a, b, c, d]).find?
        (fun byte => byte == dot || byte == colon || byte == 0x25) = some dot := by
      have plain : (formatDecimal a.toNat).find?
          (fun byte => byte == dot || byte == colon || byte == 0x25) = none := by
        rw [List.find?_eq_none]
        intro byte member
        have ⟨colonless, dotless, percentless, _⟩ := formatDecimal_unmarked member
        simp [colonless, dotless, percentless]
      rw [text, List.find?_append, plain, none_or, List.find?_cons_of_pos (by decide)]
    have value : (UInt32.ofNat (ofBe [a, b, c, d])).toNat = ofBe [a, b, c, d] := by
      have word : ofBe [a, b, c, d] < 256 ^ 4 := ofBe_lt [a, b, c, d]
      have size : 256 ^ 4 = 2 ^ 32 := by decide
      rw [size] at word
      rw [UInt32.toNat_ofNat', Nat.mod_eq_of_lt word]
    have bytes := beBytes_ofBe [a, b, c, d]
    unfold parseIP parseAddr
    rw [first]
    dsimp only
    rw [if_pos rfl, parseIPv4, fields]
    dsimp only [map_some]
    rw [Addr.as16, value]
    exact congrArg some (congrArg (v4InV6 ++ ·) bytes)

theorem parseIP_ipString (short : to4 ip = some four) :
    parseIP (ipString ip) = some (v4InV6 ++ four) := by
  rw [ipString, short]
  exact parseIP_ipv4String (to4_length short)

/-! ## Host and port -/

/-- Host and port in one text, `net.JoinHostPort`: a host with a colon is put in brackets. -/
def joinHostPort (host port : GoString) : GoString :=
  if colon ∈ host then 0x5b :: (host ++ 0x5d :: colon :: port) else host ++ colon :: port

theorem joinHostPort_colonless (colonless : colon ∉ host) (port : GoString) :
    joinHostPort host port = host ++ colon :: port := by
  rw [joinHostPort, if_neg colonless]

theorem joinHostPort_colons (colons : colon ∈ host) (port : GoString) :
    joinHostPort host port = 0x5b :: (host ++ 0x5d :: colon :: port) := by
  rw [joinHostPort, if_pos colons]

/-- A text without the marks that separate host and port. -/
def Unmarked (text : GoString) : Prop :=
  colon ∉ text ∧ 0x5b ∉ text ∧ 0x5d ∉ text

instance : DecidablePred Unmarked := fun text =>
  inferInstanceAs (Decidable (colon ∉ text ∧ 0x5b ∉ text ∧ 0x5d ∉ text))

theorem splitHostPort_plain (hostPlain : Unmarked host) (portPlain : Unmarked port) :
    splitHostPort (host ++ colon :: port) = some (host, port) := by
  have outside : (0x5b : UInt8) ∉ host ++ colon :: port ∧ 0x5d ∉ host ++ colon :: port := by
    have mark : (0x5b : UInt8) ≠ colon ∧ 0x5d ≠ colon := by decide
    simp [hostPlain.2.1, hostPlain.2.2, portPlain.2.1, portPlain.2.2, mark.1, mark.2]
  have front : (host ++ colon :: port).head? ≠ some 0x5b := by
    intro first
    exact outside.1 (mem_of_head? first)
  rw [splitHostPort, lastIndexByte_append_cons host portPlain.1]
  dsimp only
  rw [if_neg front, take_left, ← drop_drop, drop_left, drop_one, tail_cons, if_neg]
  rw [Bool.or_eq_true, Bool.or_eq_true, contains_iff_mem, contains_iff_mem, contains_iff_mem]
  rintro ((inner | opening) | closing)
  · exact hostPlain.1 inner
  · exact outside.1 opening
  · exact outside.2 closing

theorem splitHostPort_bracketed (hostPlain : 0x5b ∉ host ∧ 0x5d ∉ host)
    (portPlain : Unmarked port) :
    splitHostPort (0x5b :: (host ++ 0x5d :: colon :: port)) = some (host, port) := by
  have marks : (0x5b : UInt8) ≠ colon ∧ (0x5d : UInt8) ≠ colon ∧ (0x5d : UInt8) ≠ 0x5b := by decide
  have last : lastIndexByte (0x5b :: (host ++ 0x5d :: colon :: port)) colon =
      some (host.length + 2) := by
    have position := lastIndexByte_append_cons (0x5b :: (host ++ [0x5d])) portPlain.1
    rw [cons_append, append_assoc, length_cons, length_append] at position
    exact position
  have close : indexByte (0x5b :: (host ++ 0x5d :: colon :: port)) 0x5d =
      some (host.length + 1) := by
    have absent : (0x5d : UInt8) ∉ 0x5b :: host := by simp [hostPlain.2]
    have position := indexByte_append_cons absent (colon :: port)
    rwa [cons_append] at position
  rw [splitHostPort, last]
  dsimp only
  rw [close]
  simp [hostPlain.1, portPlain.2.1, portPlain.2.2, marks.1, marks.2.1]

theorem splitHostPort_some {text : GoString} (split : splitHostPort text = some (host, port)) :
    Unmarked port ∧ (0x5b ∉ host ∧ 0x5d ∉ host) ∧
      (colon ∉ host ∧ text = host ++ colon :: port ∨
        text = 0x5b :: (host ++ 0x5d :: colon :: port)) := by
  cases position : lastIndexByte text colon with
  | none =>
    rw [splitHostPort, position] at split
    cases split
  | some last =>
    have ⟨front, rest, whole, later, length⟩ := lastIndexByte_some position
    have behind : text.drop (front.length + 1) = rest := by
      rw [whole, ← drop_drop, drop_left]
      rfl
    rw [splitHostPort, position] at split
    dsimp only at split
    rw [length, behind] at split
    by_cases bracket : text.head? = some 0x5b
    · rw [if_pos bracket] at split
      cases closing : indexByte text 0x5d with
      | none =>
        rw [closing] at split
        cases split
      | some close =>
        rw [closing] at split
        dsimp only at split
        have ⟨parts, early, _⟩ := indexByte_some closing
        split_ifs at split with apart nested
        have ⟨hostIs, portIs⟩ := Prod.mk.inj (Option.some.inj split)
        subst portIs
        have tail : text.drop (close + 1) = colon :: rest := by
          rw [not_not.mp apart, whole, drop_left]
        have opened : text.take close = 0x5b :: host := by
          cases cut : text.take close with
          | nil =>
            rw [parts, cut] at bracket
            cases bracket
          | cons first inner =>
            rw [parts, cut] at bracket
            rw [cut] at hostIs
            have same : first = 0x5b := Option.some.inj bracket
            rw [same, ← hostIs]
            rfl
        rw [opened, tail, cons_append] at parts
        rw [opened] at early
        rw [tail, parts] at nested
        simp only [drop_one, tail_cons, contains_eq_mem, Bool.or_eq_true,
          decide_eq_true_eq, mem_append, mem_cons, not_or] at nested early
        exact ⟨⟨later, nested.1.2.2.2, nested.2.2⟩, ⟨nested.1.1, early.2⟩, .inr parts⟩
    · split_ifs at split with nested
      have ⟨hostIs, portIs⟩ := Prod.mk.inj (Option.some.inj split)
      subst portIs
      have cut : text.take front.length = front := by rw [whole, take_left]
      rw [cut] at hostIs nested
      subst hostIs
      have absent : colon ∉ front ∧ 0x5b ∉ text ∧ 0x5d ∉ text := by
        simpa [and_assoc] using nested
      rw [whole] at absent
      simp only [mem_append, mem_cons, not_or] at absent
      have ⟨colonless, ⟨opening, _, portOpening⟩, closing, _, portClosing⟩ := absent
      exact ⟨⟨later, portOpening, portClosing⟩, ⟨opening, closing⟩, .inl ⟨colonless, whole⟩⟩

theorem splitHostPort_colonless {text : GoString} (colonless : colon ∉ text) :
    splitHostPort text = none := by
  cases split : splitHostPort text with
  | none => rfl
  | some pair =>
    have ⟨_, _, shape⟩ := splitHostPort_some split
    rcases shape with ⟨_, rfl⟩ | rfl <;> simp at colonless

theorem splitHostPort_colons (colons : colon ∈ host)
    (unbracketed : 0x5b ∉ host) (portColonless : colon ∉ port) :
    splitHostPort (host ++ colon :: port) = none := by
  cases split : splitHostPort (host ++ colon :: port) with
  | none => rfl
  | some pair =>
    have ⟨otherPort, _, shape⟩ := splitHostPort_some split
    rcases shape with ⟨colonless, same⟩ | same
    · have last := lastIndexByte_append_cons host portColonless
      rw [same, lastIndexByte_append_cons _ otherPort.1] at last
      have hosts := append_inj_left same (Option.some.inj last).symm
      rw [hosts] at colons
      exact absurd colons colonless
    · cases host with
      | nil => cases colons
      | cons first rest =>
        rw [(List.cons.inj same).1] at unbracketed
        exact absurd mem_cons_self unbracketed

theorem splitHostPort_opened {inside : GoString}
    (split : splitHostPort (0x5b :: inside) = some (host, port)) :
    inside = host ++ 0x5d :: colon :: port := by
  have ⟨_, unbracketed, shape⟩ := splitHostPort_some split
  rcases shape with ⟨_, same⟩ | same
  · cases host with
    | nil => exact absurd (List.cons.inj same).1 (by decide)
    | cons first rest =>
      rw [← (List.cons.inj same).1] at unbracketed
      exact absurd mem_cons_self unbracketed.1
  · exact (List.cons.inj same).2

theorem formatDecimal_plain (value : Nat) : Unmarked (formatDecimal value) := by
  have apart {byte : UInt8} (member : byte ∈ formatDecimal value) := formatDecimal_unmarked member
  exact ⟨fun member => (apart member).1 rfl, fun member => (apart member).2.2.2.1 rfl,
    fun member => (apart member).2.2.2.2 rfl⟩

theorem ipString_plain (short : to4 ip = some four) : Unmarked (ipString ip) := by
  have apart {byte : UInt8} (member : byte ∈ ipv4String four) := ipv4String_unmarked member
  rw [ipString, short]
  exact ⟨fun member => (apart member).1 rfl, fun member => (apart member).2.1 rfl,
    fun member => (apart member).2.2 rfl⟩

theorem ipString_colons (long : to4 ip = none) (sixteen : ip.length = 16) :
    colon ∈ ipString ip ∧ 0x5b ∉ ipString ip ∧ 0x5d ∉ ipString ip := by
  have groups := groupsOf_length 8 sixteen
  rw [ipString, long]
  rw [if_pos sixteen]
  refine ⟨colon_mem_ipv6String (by omega), ?_, ?_⟩
  · intro member
    exact (ipv6String_unmarked member).2.2.1 rfl
  · intro member
    exact (ipv6String_unmarked member).2.2.2 rfl

theorem mapped_of_to4 (short : to4 ip = some four) (sixteen : ip.length = 16) :
    v4InV6 ++ four = ip := by
  rw [to4, if_neg (by omega)] at short
  split at short
  · rename_i mapped
    rw [← Option.some.inj short, ← mapped.2, take_append_drop]
  · cases short

theorem splitHostPort_join (unbracketed : 0x5b ∉ host ∧ 0x5d ∉ host)
    (plain : Unmarked port) : splitHostPort (joinHostPort host port) = some (host, port) := by
  by_cases colons : colon ∈ host
  · rw [joinHostPort_colons colons]
    exact splitHostPort_bracketed unbracketed plain
  · rw [joinHostPort_colonless colons]
    exact splitHostPort_plain ⟨colons, unbracketed⟩ plain

theorem splitHostPort_join_inv {inner behind : GoString} (plain : Unmarked port)
    (split : splitHostPort (joinHostPort host port) = some (inner, behind)) :
    behind = port ∧ (inner = host ∨ colon ∉ host ∧ host = 0x5b :: (inner ++ [0x5d])) := by
  have ⟨behindPlain, _, forms⟩ := splitHostPort_some split
  have regroup (text tail : GoString) : 0x5b :: (text ++ 0x5d :: colon :: tail) =
      0x5b :: (text ++ [0x5d]) ++ colon :: tail := by
    rw [cons_append, append_assoc, singleton_append]
  by_cases colons : colon ∈ host
  · rw [joinHostPort_colons colons, regroup] at forms
    rcases forms with ⟨colonless, same⟩ | same
    · have ⟨front, _⟩ := lastByte_inj plain.1 behindPlain.1 same
      rw [← front] at colonless
      exact absurd (mem_cons_of_mem _ (mem_append_left _ colons)) colonless
    · rw [regroup] at same
      have ⟨front, tails⟩ := lastByte_inj plain.1 behindPlain.1 same
      have hosts := append_cancel_right (List.cons.inj front).2
      exact ⟨tails.symm, .inl hosts.symm⟩
  · rw [joinHostPort_colonless colons] at forms
    rcases forms with ⟨_, same⟩ | same
    · have ⟨front, tails⟩ := lastByte_inj plain.1 behindPlain.1 same
      exact ⟨tails.symm, .inl front.symm⟩
    · rw [regroup] at same
      have ⟨front, tails⟩ := lastByte_inj plain.1 behindPlain.1 same
      exact ⟨tails.symm, .inr ⟨colons, front⟩⟩

theorem splitHostPort_joinHostPort (unbracketed : 0x5b ∉ host ∧ 0x5d ∉ host) (port : Nat) :
    splitHostPort (joinHostPort host (formatDecimal port)) = some (host, formatDecimal port) :=
  splitHostPort_join unbracketed (formatDecimal_plain port)

theorem ipString_other (long : to4 ip = none) (other : ip.length ≠ 16)
    (member : byte ∈ ipString ip) : Inner byte := by
  rw [ipString, long] at member
  dsimp only at member
  rw [if_neg other] at member
  split at member
  · have unmarked : ((lit "<nil>").all fun byte => decide (Inner byte)) = true := by decide
    exact of_decide_eq_true (all_eq_true.mp unmarked byte member)
  · rcases mem_append.mp member with mark | digits
    · rw [mem_singleton.mp mark]
      decide
    · have ⟨source, _, digit⟩ := mem_flatMap.mp digits
      have bound := source.toNat_lt
      rcases mem_cons.mp digit with first | second
      · rw [first]
        exact digitByte_unmarked (by omega)
      · rw [mem_singleton.mp second]
        exact digitByte_unmarked (by omega)

theorem parseIP_ipString_other (long : to4 ip = none) (other : ip.length ≠ 16) :
    parseIP (ipString ip) = none := by
  have unmarked : (ipString ip).find? (fun byte => byte == dot || byte == colon || byte == 0x25) =
      none := by
    rw [List.find?_eq_none]
    intro byte member
    have ⟨noColon, noDot, noPercent, _⟩ := ipString_other long other member
    simp [noColon, noDot, noPercent]
  rw [parseIP, parseAddr, unmarked]

theorem ipString_unbracketed (ip : IP) : 0x5b ∉ ipString ip ∧ 0x5d ∉ ipString ip := by
  cases short : to4 ip with
  | some four => exact (ipString_plain short).2
  | none =>
    by_cases sixteen : ip.length = 16
    · exact (ipString_colons short sixteen).2
    · have apart {byte : UInt8} (member : byte ∈ ipString ip) :=
        ipString_other short sixteen member
      exact ⟨fun member => (apart member).2.2.2.1 rfl, fun member => (apart member).2.2.2.2 rfl⟩

/-! ## Ports -/

theorem foldl_formatWithin {limit : Nat} (width : Nat) :
    ∀ value, value < 10 ^ width → value < limit → 0 < width →
      (formatWithin 10 width value).foldl (fun value byte => do
        let value ← value
        let digit ← decimalDigit byte
        if value * 10 + digit < limit then some (value * 10 + digit) else none) (some 0) =
      some value := by
  intro value fits below several
  revert below
  refine formatWithin_induction (by decide) ?_ ?_ several fits
  · intro digit low below
    rw [foldl_cons, foldl_nil, bind_eq_bind, bind_some, decimalDigit_digitByte low, bind_some,
      Nat.zero_add, if_pos below]
  · intro front text digit _ low ih below
    rw [foldl_append, ih (by omega), foldl_cons, foldl_nil, bind_eq_bind, bind_some,
      decimalDigit_digitByte low, bind_some, if_pos below]

theorem parseUint16_formatDecimal (port : UInt16) :
    parseUint16 (formatDecimal port.toNat) = some port := by
  have below : port.toNat < 2 ^ 16 := port.toNat_lt
  have digits := foldl_formatWithin 20 port.toNat (by omega) below (by decide)
  rw [parseUint16, if_neg (formatDecimal_ne_nil _), formatDecimal, digits, map_some,
    UInt16.ofNat_toNat]

/-- The ports of UDP services, as `net.LookupPort` finds them: a decimal number is its own port. -/
structure Services where
  lookupPort : GoString → Option UInt16
  numeric : ∀ port : UInt16, lookupPort (formatDecimal port.toNat) = some port

def Services.unnamed : Services := ⟨parseUint16, parseUint16_formatDecimal⟩

end Shuttle.Go
