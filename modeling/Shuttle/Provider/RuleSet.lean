import Shuttle.Router.RuleChain

/-!
# Rule lists of providers

`provider/rule_provider.go` parses a downloaded rule list line by line. A line of a domain list
becomes an exact name and a suffix as it is written, lowered; the router's trie drops a leading "+."
and a trailing dot from the same line, and treats a label "+" as a wildcard. Both are compared as
ways for the labels of a line to end those of a name.
-/

namespace Shuttle.Provider

open Shuttle.Go Shuttle.Router List

inductive Behavior where
  | domain
  | ipcidr
  | classical

section Code

variable (tables : CaseTables)

def emptyRuleSet : RuleSet := ⟨[], [], [], []⟩

variable (rules : RuleSet)

variable (line : GoString)

def parseDomainLine : RuleSet :=
  let domain := toLower tables line
  { rules with
    domains := rules.domains ++ [domain]
    domainSuffixes := rules.domainSuffixes ++ [dot :: domain] }

def parseCIDRLine : RuleSet :=
  match parseCIDR line with
  | none => rules
  | some range => { rules with cidrs := rules.cidrs ++ [range] }

/-- Add a line of the form "TYPE,value"; options behind a second comma are dropped. -/
def parseClassicalLine : RuleSet :=
  match splitByte 0x2c line with
  | ruleType :: value :: _ =>
    let ruleType := toUpper tables (trimSpace ruleType)
    let value := trimSpace value
    let lower := toLower tables value
    if value = [] then rules
    else if ruleType = lit "DOMAIN" then { rules with domains := rules.domains ++ [lower] }
    else if ruleType = lit "DOMAIN-SUFFIX" then
      { rules with domainSuffixes := rules.domainSuffixes ++ [dot :: lower] }
    else if ruleType = lit "DOMAIN-KEYWORD" then
      { rules with domainKeywords := rules.domainKeywords ++ [lower] }
    else if ruleType = lit "IP-CIDR" ∨ ruleType = lit "IP-CIDR6" then parseCIDRLine rules value
    else rules
  | _ => rules

def parseLine (behavior : Behavior) (rules : RuleSet) (line : GoString) : RuleSet :=
  match behavior with
  | .domain => parseDomainLine tables rules line
  | .ipcidr => parseCIDRLine rules line
  | .classical => parseClassicalLine tables rules line

/-- The lines of a list, without blank ones and comments. -/
def ruleLines (data : List UInt8) : List GoString :=
  ((splitByte 0x0a data).map trimSpace).filter fun line =>
    line ≠ [] ∧ ¬(lit "#").isPrefixOf line

def parseRuleSet (behavior : Behavior) (data : List UInt8) : RuleSet :=
  (ruleLines data).foldl (parseLine tables behavior) emptyRuleSet

end Code

section Domains

variable {tables : CaseTables}

/-- The labels of a line, as it is written, end those of a name. -/
def EndsAsWritten (tables : CaseTables) (line domain : GoString) : Prop :=
  splitByte dot (toLower tables line) <:+
    splitByte dot (toLower tables domain)

theorem foldl_parseDomainLine (lines : List GoString) (rules : RuleSet) :
    lines.foldl (parseLine tables .domain) rules =
      { rules with
        domains := rules.domains ++ lines.map (toLower tables)
        domainSuffixes := rules.domainSuffixes ++
          lines.map fun line => dot :: toLower tables line } := by
  induction lines generalizing rules with
  | nil =>
    rw [map_nil, map_nil, append_nil, append_nil]
    rfl
  | cons line rest ih =>
    rw [foldl_cons, ih, parseLine, parseDomainLine, append_assoc, append_assoc]
    rfl

theorem matchDomain_domains_iff (name : GoString) (data : List UInt8) (domain : GoString) :
    (RuleProvider.mk name (some (parseRuleSet tables .domain data))).matchDomain tables domain =
        true ↔
      ∃ line ∈ ruleLines data, EndsAsWritten tables line domain := by
  rw [RuleProvider.matchDomain, parseRuleSet, foldl_parseDomainLine]
  simp only [emptyRuleSet, nil_append, any_nil, Bool.or_false, Bool.or_eq_true,
    contains_iff_mem, mem_map, any_map, any_eq_true, Function.comp_apply,
    isSuffixOf_iff_suffix, beq_iff_eq, drop_one]
  constructor
  · rintro (⟨line, listed, same⟩ | ⟨line, listed, ends | same⟩)
    · exact ⟨line, listed, (splitByte_suffix_iff ..).mpr (.inl same.symm)⟩
    · exact ⟨line, listed, (splitByte_suffix_iff ..).mpr (.inr ends)⟩
    · exact ⟨line, listed, (splitByte_suffix_iff ..).mpr (.inl same)⟩
  · rintro ⟨line, listed, ends⟩
    rcases (splitByte_suffix_iff ..).mp ends with same | behind
    · exact .inl ⟨line, listed, same.symm⟩
    · exact .inr ⟨line, listed, .inl behind⟩

def lineTrie (tables : CaseTables) (action : GoString) (data : List UInt8) : DomainTrie :=
  DomainTrie.new.insertAll tables ((ruleLines data).map fun line => (line, action))

theorem lineTrie_lookup_isSome (action : GoString) (data : List UInt8) (domain : GoString) :
    ((lineTrie tables action data).lookup tables domain).isSome ↔
      ∃ line ∈ ruleLines data, Reaches tables line domain := by
  rw [lineTrie, DomainTrie.lookup_insertAll_isSome]
  constructor
  · rintro ⟨pair, listed, found⟩
    have ⟨line, inside, same⟩ := mem_map.mp listed
    rw [← same] at found
    exact ⟨line, inside, found⟩
  · rintro ⟨line, inside, found⟩
    exact ⟨(line, action), mem_map.mpr ⟨line, inside, rfl⟩, found⟩

theorem ruleLines_ne_nil {data : List UInt8} {line : GoString} (listed : line ∈ ruleLines data) :
    line ≠ [] := by
  have ⟨_, kept⟩ := mem_filter.mp listed
  exact (of_decide_eq_true kept).1

theorem EndsAsWritten.reaches (runewise : tables.toUnicodeTables.Runewise) {line domain : GoString}
    (some : line ≠ []) (apart : line ≠ lit "+.") (ends : EndsAsWritten tables line domain) :
    Reaches tables line domain := by
  have marks : lit "+." = [0x2b, 0x2e] := rfl
  have lowered : toLower tables line ≠ lit "+." := by
    intro same
    rw [marks] at same
    have ⟨tail, first, later⟩ := runewise.of_toLower_cons (by decide) (by decide) same
    have ⟨rest, second, blank⟩ := runewise.of_toLower_cons (by decide) (by decide) later
    apply apart
    rw [first, second, runewise.toLower_eq_nil blank, marks]
  rw [Reaches, domainLabels_lowered runewise, domainLabels_lowered runewise]
  exact .inl (labels_suffix_trimmed (fun blank => some (runewise.toLower_eq_nil blank)) lowered
    ends)

end Domains

/-- The provider and the router's trie agree on a name if and only if a name for which the trie
finds some line, by labels without a leading "+." and a trailing dot or by a label "+", ends in the
labels of some line as written; and, should "+." be a line, the trie also finds some line for the
names that end in it as written. -/
theorem provider_agrees_with_trie_iff (tables : CaseTables)
    (runewise : tables.toUnicodeTables.Runewise) (name action : GoString) (data : List UInt8)
    (domain : GoString) :
    (RuleProvider.mk name (some (parseRuleSet tables .domain data))).matchDomain tables domain =
        ((lineTrie tables action data).lookup tables domain).isSome ↔
      ((∃ line ∈ ruleLines data, Reaches tables line domain) →
        ∃ line ∈ ruleLines data, EndsAsWritten tables line domain) ∧
      (lit "+." ∈ ruleLines data → EndsAsWritten tables (lit "+.") domain →
        ∃ line ∈ ruleLines data, Reaches tables line domain) := by
  rw [Bool.eq_iff_iff, matchDomain_domains_iff, lineTrie_lookup_isSome]
  constructor
  · intro agree
    exact ⟨agree.mpr, fun listed ends => agree.mp ⟨lit "+.", listed, ends⟩⟩
  · rintro ⟨found, special⟩
    refine ⟨?_, found⟩
    rintro ⟨line, listed, ends⟩
    by_cases plus : line = lit "+."
    · rw [plus] at listed ends
      exact special listed ends
    · exact ⟨line, listed, ends.reaches runewise (ruleLines_ne_nil listed) plus⟩

def plainList : List UInt8 := lit "# sites\nExample.com\n"

theorem plainList_agrees :
    (RuleProvider.mk [] (some (parseRuleSet bytewiseCase .domain plainList))).matchDomain
        bytewiseCase
        (lit "www.example.com") =
      ((lineTrie bytewiseCase (lit "proxy") plainList).lookup bytewiseTables
        (lit "www.example.com")).isSome := by
  have line : lit "Example.com" ∈ ruleLines plainList := by decide +kernel
  have ends : EndsAsWritten bytewiseCase (lit "Example.com") (lit "www.example.com") :=
    ⟨[lit "www"], by decide +kernel⟩
  have unlisted : lit "+." ∉ ruleLines plainList := by decide +kernel
  exact (provider_agrees_with_trie_iff bytewiseCase bytewiseTables_runewise [] (lit "proxy")
    plainList
    (lit "www.example.com")).mpr
    ⟨fun _ => ⟨_, line, ends⟩, fun listed => absurd listed unlisted⟩

/-- The trie finds names for a line with a leading "+." or a trailing dot; the provider does not. -/
theorem marked_lines_missed :
    (RuleProvider.mk [] (some (parseRuleSet bytewiseCase .domain
          (lit "+.example.com\nexample.org.\n")))).matchDomain bytewiseCase
        (lit "www.example.com") = false ∧
      ((lineTrie bytewiseCase (lit "proxy") (lit "+.example.com\nexample.org.\n")).lookup
        bytewiseTables (lit "www.example.com")).isSome = true ∧
      (RuleProvider.mk [] (some (parseRuleSet bytewiseCase .domain
          (lit "+.example.com\nexample.org.\n")))).matchDomain bytewiseCase
        (lit "example.org") = false ∧
      ((lineTrie bytewiseCase (lit "proxy") (lit "+.example.com\nexample.org.\n")).lookup
        bytewiseTables (lit "example.org")).isSome = true := by
  decide +kernel

end Shuttle.Provider
