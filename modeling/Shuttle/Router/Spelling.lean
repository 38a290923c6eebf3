import Shuttle.Lib.Lists
import Shuttle.Router.RuleChain

/-!
# Spellings of a name

A name stays the same name of DNS when the case of its letters changes or a dot is added at its end.
Every condition of the router lowers the name. The dot at the end is removed by the domain trie and
by the exact table of the legacy rules only: the other conditions of the rule chain, rule providers
and network rules compare the text as it is, so their lists can have one spelling only.
-/

set_option linter.dupNamespace false

namespace Shuttle.Router

open Shuttle.Go Shuttle.Lib List

/-- One name is the other with letters in another case: ASCII letters, or letters that the tables
lower alike. -/
def CaseVariant (tables : UnicodeTables) (name other : GoString) : Prop :=
  name.map lowerByte = other.map lowerByte ∨ toLower tables name = toLower tables other

def Connection.named (connection : Connection) (domain : GoString) : Connection :=
  { connection with domain := domain }

/-! ## Names in the lists of conditions -/

def categorySites (geoSite : Option GeoSiteDB) (category : GoString) : List GoString :=
  match geoSite with
  | none => []
  | some sites => sites.lookup category

/-- The labels of a site, lowered and without a leading "+.", end those of a lowered name. -/
def EndsBelow (tables : UnicodeTables) (site lower : GoString) : Prop :=
  splitByte dot (trimLead (toLower tables site) (lit "+.")) <:+ splitByte dot lower

/-- The lists of a provider have a lowered name. -/
def RuleSet.Lists (rules : RuleSet) (lower : GoString) : Prop :=
  lower ∈ rules.domains ∨
    (∃ suffix ∈ rules.domainSuffixes, suffix <:+ lower ∨ lower = suffix.drop 1) ∨
    ∃ keyword ∈ rules.domainKeywords, keyword <:+: lower

/-- The conditions of an entry that compare the text of a name, its dot at the end included. -/
inductive TextCondition where
  | domain
  | domainKeyword
  | geoSite
  | ruleProvider

/-- The lists of a condition have a lowered name. -/
def RuleMatch.Lists (tables : UnicodeTables) (geoSite : Option GeoSiteDB)
    (providers : GoMap GoString RuleProvider) (conditions : RuleMatch) (lower : GoString) :
    TextCondition → Prop
  | .domain => ∃ domain ∈ conditions.domain, toLower tables domain = lower
  | .domainKeyword => ∃ keyword ∈ conditions.domainKeyword, toLower tables keyword <:+: lower
  | .geoSite => ∃ category ∈ conditions.geoSite,
      ∃ site ∈ categorySites geoSite (toLower tables category), EndsBelow tables site lower
  | .ruleProvider => ∃ name ∈ conditions.ruleProvider, ∃ provider, providers name = some provider ∧
      ∃ rules, provider.rules = some rules ∧ rules.Lists lower

/-- A value of a network rule names a lowered name or, with a leading "+.", one above it. -/
def NetworkNamed (tables : UnicodeTables) (lower v : GoString) : Prop :=
  if lit "+." <+: v then splitByte dot (toLower tables (v.drop 2)) <:+ splitByte dot lower
  else lower = toLower tables v

/-- A rule for names that is bound to a network type has both of two lowered names or none. -/
def Rule.Undivided (tables : UnicodeTables) (lower other : GoString) (rule : Rule) : Prop :=
  rule.networkType ≠ [] → rule.type = .domain ∨ rule.type = .domainSuffix →
    ((∃ v ∈ rule.values, NetworkNamed tables lower v) ↔
      ∃ v ∈ rule.values, NetworkNamed tables other v)

theorem networkDomainMatches_iff {tables : UnicodeTables} {domain v : GoString} :
    networkDomainMatches tables domain v = true ↔
      NetworkNamed tables (toLower tables domain) v := by
  unfold networkDomainMatches NetworkNamed
  rw [splitByte_suffix_iff]
  by_cases leads : lit "+." <+: v
  · rw [if_pos ( isPrefixOf_iff_prefix.mpr leads), if_pos leads, Bool.or_eq_true, beq_iff_eq,
      isSuffixOf_iff_suffix]
  · rw [if_neg (mt isPrefixOf_iff_prefix.mp leads), if_neg leads, beq_iff_eq]

/-! ## Conditions of a compiled entry -/

/-- The condition answers alike for two names. -/
def Alike (name other : GoString) (matcher : Matcher) : Prop :=
  ∀ (connection : Connection) networkType,
    matcher ⟨connection.named name, networkType⟩ = matcher ⟨connection.named other, networkType⟩

section Conditions

variable {tables : CaseTables} {geoIP : Option GeoIPSnapshot} {geoSite : Option GeoSiteDB}
  {providers : GoMap GoString RuleProvider} {rule : CompiledRule}

/-- What holds of the matcher of a condition holds of all that its list compiles to. -/
theorem condition_each_iff {holds : Matcher → Prop} {stated : Prop} {values : List GoString}
    {compile : List GoString → Except EntryError Matcher} {matchers : List Matcher}
    (compiled : condition values compile = .ok matchers)
    (each : ∀ matcher, compile values = .ok matcher → (holds matcher ↔ stated))
    (blank : values = [] → stated) : (∀ matcher ∈ matchers, holds matcher) ↔ stated := by
  unfold condition at compiled
  split at compiled
  · rename_i empty
    cases compiled
    exact iff_of_true nofun (blank empty)
  · have ⟨made, compiledValues, single⟩ := except_bind_ok.mp compiled
    cases single
    rw [forall_mem_singleton]
    exact each made compiledValues

theorem newGeoSiteMatcher_iff (context : MatchContext) :
    newGeoSiteMatcher tables categories geoSite context = true ↔
      context.domain ≠ [] ∧ ∃ category ∈ categories,
        ∃ site ∈ categorySites geoSite (toLower tables category),
          EndsBelow tables site (toLower tables context.domain) := by
  have site : ∀ site, siteMatches tables (toLower tables context.domain) site =
      true ↔ EndsBelow tables site (toLower tables context.domain) := by
    intro site
    rw [siteMatches, EndsBelow, splitByte_suffix_iff, Bool.or_eq_true, beq_iff_eq,
      isSuffixOf_iff_suffix]
  cases geoSite with
  | none => simp [newGeoSiteMatcher, categorySites]
  | some sites => simp [newGeoSiteMatcher, categorySites, site]

theorem newDomainExactMatcher_iff {domains : List GoString} (context : MatchContext) :
    newDomainExactMatcher tables domains context = true ↔ context.domain ≠ [] ∧
      ∃ domain ∈ domains, toLower tables domain = toLower tables context.domain := by
  simp [newDomainExactMatcher, nameMatcher]

theorem newDomainKeywordMatcher_iff {keywords : List GoString} (context : MatchContext) :
    newDomainKeywordMatcher tables keywords context = true ↔ context.domain ≠ [] ∧
      ∃ keyword ∈ keywords, toLower tables keyword <:+: toLower tables context.domain := by
  simp [newDomainKeywordMatcher]

theorem matchDomain_iff {provider : RuleProvider} {domain : GoString} :
    provider.matchDomain tables domain = true ↔
      ∃ rules, provider.rules = some rules ∧ rules.Lists (toLower tables domain) := by
  unfold RuleProvider.matchDomain RuleSet.Lists
  cases provider.rules with
  | none => simp
  | some rules => simp [or_assoc]

theorem findProviders_mem {names : List GoString} {found : List RuleProvider}
    (compiled : findProviders providers names = .ok found) (provider : RuleProvider) :
    provider ∈ found ↔ ∃ name ∈ names, providers name = some provider := by
  induction names generalizing found with
  | nil =>
    cases compiled
    simp
  | cons name names ih =>
    rw [findProviders, mapM_cons] at compiled
    have ⟨first, made, compiled⟩ := except_bind_ok.mp compiled
    have ⟨others, rest, same⟩ := except_bind_ok.mp compiled
    cases same
    cases present : providers name with
    | none =>
      rw [present] at made
      cases made
    | some held =>
      rw [present] at made
      cases made
      rw [mem_cons, ih rest, exists_mem_cons_iff, present, Option.some.injEq, eq_comm]

theorem compileFrom_mem (entries : List RuleChainEntry) : ∀ {position rules},
    compileFrom tables geoIP geoSite providers position entries = .ok rules →
      ∀ rule ∈ rules, ∃ entry ∈ entries,
        compileEntry tables geoIP geoSite providers entry = .ok rule := by
  induction entries with
  | nil =>
    intro position rules compiled
    cases compiled
    nofun
  | cons entry rest ih =>
    intro position rules compiled
    have ⟨rule, others, first, later, same⟩ := compileFrom_cons compiled
    subst same
    refine forall_mem_cons.mpr ⟨⟨entry, mem_cons_self, first⟩, ?_⟩
    intro other member
    have ⟨source, listed, made⟩ := ih later other member
    exact ⟨source, mem_cons_of_mem entry listed, made⟩

theorem ruleChainOf_mem {entries : List RuleChainEntry}
    (member : rule ∈ ruleChainOf tables entries geoIP geoSite providers) :
    ∃ entry ∈ entries, compileEntry tables geoIP geoSite providers entry = .ok rule := by
  rw [ruleChainOf] at member
  cases compiled : compileRuleChain tables entries geoIP geoSite providers with
  | error error =>
    rw [compiled] at member
    cases member
  | ok rules =>
    rw [compiled] at member
    exact compileFrom_mem entries compiled rule member

theorem CompiledRule.matches_congr {left right : MatchContext}
    (same : ∀ matcher ∈ rule.matchers, matcher left = matcher right) :
    rule.matches left = rule.matches right := by
  have answers : (rule.matchers.map fun matcher => matcher left) =
      rule.matchers.map fun matcher => matcher right := map_congr_left same
  have some : (rule.matchers.any fun matcher => matcher left) =
      rule.matchers.any fun matcher => matcher right := by
    have joined := congrArg (List.any · id) answers
    rwa [any_map, any_map] at joined
  have all : (rule.matchers.all fun matcher => matcher left) =
      rule.matchers.all fun matcher => matcher right := by
    have joined := congrArg (List.all · id) answers
    rwa [all_map, all_map] at joined
  unfold CompiledRule.matches
  rw [some, all]

end Conditions

section Pairs

variable {tables : CaseTables} {geoIP : Option GeoIPSnapshot} {geoSite : Option GeoSiteDB}
  {providers : GoMap GoString RuleProvider} {name other : GoString} (known : name ≠ [])
  (otherKnown : other ≠ [])

include known otherKnown

theorem known_bne : (name != []) = (other != []) :=
  (bne_iff_ne.mpr known).trans (bne_iff_ne.mpr otherKnown).symm

/-- A condition that a name meets by its list, or a connection by something else, tells two names
apart exactly if its list does. -/
theorem alike_iff_of_lists {matcher : Matcher} (lists : GoString → Prop)
    (others : Connection → Prop) (matches_iff : ∀ {text}, text ≠ [] → ∀ connection networkType,
      matcher ⟨connection.named text, networkType⟩ = true ↔
        lists (toLower tables text) ∨ others connection)
    (blank : ¬others ⟨[], none, [], [], 0, none⟩) :
    Alike name other matcher ↔ (lists (toLower tables name) ↔ lists (toLower tables other)) := by
  constructor
  · intro alike
    have same := alike ⟨[], none, [], [], 0, none⟩ []
    rw [Bool.eq_iff_iff, matches_iff known, matches_iff otherKnown, or_iff_left blank,
      or_iff_left blank] at same
    exact same
  · intro same connection networkType
    rw [Bool.eq_iff_iff, matches_iff known, matches_iff otherKnown, same]

variable (labels : reverseDomain tables name = reverseDomain tables other)

include labels

/-- The conditions of an entry tell apart two names with the same labels exactly if the lists of
one of them do. -/
theorem compileConditions_alike_iff {conditions : RuleMatch} {matchers : List Matcher}
    (compiled : compileConditions tables geoIP geoSite providers conditions = .ok matchers) :
    (∀ matcher ∈ matchers, Alike name other matcher) ↔
      ∀ kind, conditions.Lists tables geoSite providers (toLower tables name) kind ↔
        conditions.Lists tables geoSite providers (toLower tables other) kind := by
  have ⟨domain, madeDomain, compiled⟩ := except_bind_ok.mp compiled
  have ⟨suffix, madeSuffix, compiled⟩ := except_bind_ok.mp compiled
  have ⟨keyword, madeKeyword, compiled⟩ := except_bind_ok.mp compiled
  have ⟨site, madeSite, compiled⟩ := except_bind_ok.mp compiled
  have ⟨range, madeRange, compiled⟩ := except_bind_ok.mp compiled
  have ⟨country, madeCountry, compiled⟩ := except_bind_ok.mp compiled
  have ⟨port, madePort, compiled⟩ := except_bind_ok.mp compiled
  have ⟨source, madeSource, compiled⟩ := except_bind_ok.mp compiled
  have ⟨process, madeProcess, compiled⟩ := except_bind_ok.mp compiled
  have ⟨protocol, madeProtocol, compiled⟩ := except_bind_ok.mp compiled
  have ⟨network, madeNetwork, compiled⟩ := except_bind_ok.mp compiled
  have ⟨provider, madeProvider, compiled⟩ := except_bind_ok.mp compiled
  cases compiled
  have unnamed {values : List GoString} {compile : List GoString → Except EntryError Matcher}
      {made : List Matcher} (compiled : condition values compile = .ok made)
      (each : ∀ matcher, compile values = .ok matcher → Alike name other matcher) :
      (∀ matcher ∈ made, Alike name other matcher) ↔ True :=
    condition_each_iff compiled (fun matcher made => iff_true_intro (each matcher made))
      fun _ => trivial
  have byLists {values : List GoString} {matcher : Matcher} {made : List Matcher}
      (kind : TextCondition) (compiled : condition values (fun _ => pure matcher) = .ok made)
      (matches_iff : ∀ context, matcher context = true ↔ context.domain ≠ [] ∧
        conditions.Lists tables geoSite providers (toLower tables context.domain) kind)
      (blank : values = [] → ∀ lower, ¬conditions.Lists tables geoSite providers lower kind) :
      (∀ matcher ∈ made, Alike name other matcher) ↔
        (conditions.Lists tables geoSite providers (toLower tables name) kind ↔
          conditions.Lists tables geoSite providers (toLower tables other) kind) := by
    refine condition_each_iff compiled (fun _ made => ?_) fun empty =>
      iff_of_false (blank empty _) (blank empty _)
    cases made
    refine alike_iff_of_lists known otherKnown
      (conditions.Lists tables geoSite providers · kind) (fun _ => False)
      (fun present connection networkType => ?_) id
    rw [matches_iff, or_false]
    exact and_iff_right present
  have byProvider : (∀ matcher ∈ provider, Alike name other matcher) ↔
      (conditions.Lists tables geoSite providers (toLower tables name) .ruleProvider ↔
        conditions.Lists tables geoSite providers (toLower tables other) .ruleProvider) := by
    refine condition_each_iff madeProvider (fun _ made => ?_) fun empty => by
      simp [RuleMatch.Lists, empty]
    have ⟨found, isFound, made⟩ := except_bind_ok.mp made
    cases made
    refine alike_iff_of_lists known otherKnown
      (conditions.Lists tables geoSite providers · .ruleProvider)
      (fun connection => ∃ ip, connection.ip = some ip ∧
        ∃ provider ∈ found, provider.matchIP (ipString ip) = true)
      (fun {text} present connection _ => ?_) nofun
    have listed : (∃ provider ∈ found, provider.matchDomain tables text = true) ↔
        conditions.Lists tables geoSite providers (toLower tables text) .ruleProvider := by
      simp only [findProviders_mem isFound, matchDomain_iff, RuleMatch.Lists]
      constructor
      · rintro ⟨provider, ⟨name, member, present⟩, lists⟩
        exact ⟨name, member, provider, present, lists⟩
      · rintro ⟨name, member, provider, present, lists⟩
        exact ⟨provider, ⟨name, member, present⟩, lists⟩
    rw [← listed]
    unfold ruleProviderMatcher Connection.named
    rw [any_eq_true]
    cases connection.ip with
    | none => simp [present]
    | some ip => simp [present, and_or_left, exists_or]
  simp only [forall_mem_append]
  rw [byLists .domain madeDomain newDomainExactMatcher_iff (by simp +contextual [RuleMatch.Lists]),
    byLists .domainKeyword madeKeyword newDomainKeywordMatcher_iff
      (by simp +contextual [RuleMatch.Lists]),
    byLists .geoSite madeSite newGeoSiteMatcher_iff (by simp +contextual [RuleMatch.Lists]),
    byProvider, unnamed madeSuffix, unnamed madeRange, unnamed madeCountry, unnamed madePort,
    unnamed madeSource, unnamed madeProcess, unnamed madeProtocol, unnamed madeNetwork]
  · simp only [and_true]
    constructor
    · rintro ⟨⟨⟨domain, keyword⟩, site⟩, provider⟩ kind
      cases kind with
      | domain => exact domain
      | domainKeyword => exact keyword
      | geoSite => exact site
      | ruleProvider => exact provider
    · intro all
      exact ⟨⟨⟨all .domain, all .domainKeyword⟩, all .geoSite⟩, all .ruleProvider⟩
  · rintro _ ⟨⟩ _ _
    rfl
  · rintro _ ⟨⟩ _ _
    rfl
  · rintro _ ⟨⟩ _ _
    rfl
  · intro matcher made
    have ⟨ranges, _, same⟩ := except_bind_ok.mp made
    cases same
    exact fun _ _ => rfl
  · intro matcher made
    have ⟨ranges, _, same⟩ := except_bind_ok.mp made
    dsimp only at same
    split at same <;> cases same
    exact fun _ _ => rfl
  · rintro _ ⟨⟩ _ _
    rfl
  · intro matcher made
    have ⟨ranges, _, same⟩ := except_bind_ok.mp made
    cases same
    exact fun _ _ => rfl
  · -- The trie reads the labels of a name.
    rintro _ ⟨⟩ connection networkType
    unfold newDomainSuffixMatcher Connection.named DomainTrie.lookup
    rw [known_bne known otherKnown, labels]

theorem compileEntry_alike_iff {entry : RuleChainEntry} {rule : CompiledRule}
    (compiled : compileEntry tables geoIP geoSite providers entry = .ok rule) :
    (∀ matcher ∈ rule.matchers, Alike name other matcher) ↔
      ∀ kind, entry.conditions.Lists tables geoSite providers (toLower tables name) kind ↔
        entry.conditions.Lists tables geoSite providers (toLower tables other) kind := by
  have ⟨logic, _, compiled⟩ := except_bind_ok.mp compiled
  have ⟨action, _, compiled⟩ := except_bind_ok.mp compiled
  have ⟨matchers, made, compiled⟩ := except_bind_ok.mp compiled
  split at compiled <;> cases compiled
  exact compileConditions_alike_iff known otherKnown labels made

/-- A rule of one condition, negated or not, tells the names apart exactly if the lists do. -/
theorem matches_alike_iff {entry : RuleChainEntry} {rule : CompiledRule}
    (compiled : compileEntry tables geoIP geoSite providers entry = .ok rule)
    (single : rule.matchers.length = 1) :
    Alike name other rule.matches ↔
      ∀ kind, entry.conditions.Lists tables geoSite providers (toLower tables name) kind ↔
        entry.conditions.Lists tables geoSite providers (toLower tables other) kind := by
  rw [← compileEntry_alike_iff known otherKnown labels compiled]
  have ⟨matcher, only⟩ := length_eq_one_iff.mp single
  rw [only, forall_mem_singleton]
  refine forall₂_congr fun connection networkType => ?_
  unfold CompiledRule.matches
  rw [only]
  cases rule.logic <;> cases rule.negate <;> simp

omit labels in
theorem NetworkRule.matches_of_undivided (rule : Rule)
    (undivided : rule.Undivided tables (toLower tables name) (toLower tables other))
    (connection : Connection) :
    ∀ bound ∈ rule.constrained tables,
      bound.matches tables (connection.named name) =
        bound.matches tables (connection.named other) := by
  intro bound member
  unfold Rule.constrained at member
  split at member
  · cases member
  rename_i constrained
  rw [mem_singleton.mp member]
  have values (named : rule.type = .domain ∨ rule.type = .domainSuffix) :
      rule.values.any (networkDomainMatches tables name) =
        rule.values.any (networkDomainMatches tables other) := by
    rw [Bool.eq_iff_iff, any_eq_true, any_eq_true]
    simp only [networkDomainMatches_iff]
    exact undivided constrained named
  unfold NetworkRule.matches Connection.named
  cases type : rule.type with
  | domain =>
    dsimp only
    rw [known_bne known otherKnown, values (.inl type)]
  | domainSuffix =>
    dsimp only
    rw [known_bne known otherKnown, values (.inr type)]
  | _ => rfl

end Pairs

/-! ## The two spellings -/

section Spellings

variable {tables : CaseTables} (runewise : tables.toUnicodeTables.Runewise) {name other : GoString}

include runewise

theorem CaseVariant.lowered (variant : CaseVariant tables name other) :
    toLower tables name = toLower tables other := by
  rcases variant with bytes | same
  · exact runewise.toLower_congr name other bytes
  · exact same

section

variable (same : toLower tables name = toLower tables other)

include same

theorem reverseDomain_of_lowered : reverseDomain tables name = reverseDomain tables other := by
  have labels : domainLabels tables name = domainLabels tables other := by
    rw [domainLabels_lowered runewise, domainLabels_lowered runewise, same]
  exact reverse_injective labels

theorem domainKey_of_lowered : domainKey tables name = domainKey tables other := by
  rw [domainKey, domainKey, ← runewise.trimTail_toLower, ← runewise.trimTail_toLower, same]

end

/-- A name of at least one label and without a dot at its end. -/
structure Undotted (name : GoString) : Prop where
  known : name ≠ []
  plain : name ≠ lit "+"
  undotted : ¬lit "." <:+ name

theorem toLower_dotted (name : GoString) :
    toLower tables (name ++ lit ".") = toLower tables name ++ lit "." :=
  runewise.ascii name dot [] (by decide)

end Spellings

section

variable {tables : CaseTables} {name : GoString} (undotted : Undotted name)

include undotted

theorem domainKey_dotted : domainKey tables (name ++ lit ".") = domainKey tables name := by
  rw [domainKey, domainKey, trimTail_append, trimTail_of_not undotted.undotted]

theorem reverseDomain_dotted :
    reverseDomain tables (name ++ lit ".") = reverseDomain tables name := by
  have trimmed : trimTail (trimLead (name ++ lit ".") (lit "+.")) (lit ".") =
      trimTail (trimLead name (lit "+.")) (lit ".") := by
    rw [← trimLead_trimTail, ← trimLead_trimTail, trimTail_append,
      trimTail_of_not undotted.undotted]
    · rintro rfl
      exact undotted.undotted (suffix_append (lit "+") (lit "."))
    · intro same
      exact undotted.plain (append_cancel_right same)
  exact congrArg (fun text => (splitByte dot (toLower tables text)).reverse) trimmed

end

/-! ## Routers of a configuration -/

section Configured

variable (tables : CaseTables) (entries : List RuleChainEntry) (rules : List Rule)
  (defaultAction : Action) (geoIP : Option GeoIPSnapshot) (geoSite : Option GeoSiteDB)
  (providers : GoMap GoString RuleProvider) (networkType : GoString)

/-- The router of rule chain entries and legacy rules, on a network of some type. -/
def routerOf : Router :=
  (newRouter tables
    ⟨ruleChainOf tables entries geoIP geoSite providers, rules, defaultAction⟩ geoIP
    geoSite).setNetworkType tables networkType

variable {tables entries rules defaultAction geoIP geoSite providers networkType}

theorem routerOf_ruleChain :
    (routerOf tables entries rules defaultAction geoIP geoSite providers networkType).ruleChain =
      ruleChainOf tables entries geoIP geoSite providers :=
  (newRouter_frame tables _ _ _).1

/-- Names with the same labels that no list divides get the same decision. -/
theorem matchConnection_of_undivided {name other : GoString} (known : name ≠ [])
    (otherKnown : other ≠ []) (labels : reverseDomain tables name = reverseDomain tables other)
    (key : domainKey tables name = domainKey tables other)
    (chained : ∀ entry ∈ entries, ∀ kind,
      entry.conditions.Lists tables geoSite providers (toLower tables name) kind ↔
        entry.conditions.Lists tables geoSite providers (toLower tables other) kind)
    (bound : ∀ rule ∈ rules, rule.Undivided tables (toLower tables name) (toLower tables other))
    (connection : Connection) :
    let router := routerOf tables entries rules defaultAction geoIP geoSite providers networkType
    router.matchConnection tables (connection.named name) =
      router.matchConnection tables (connection.named other) := by
  intro router
  have chain : router.matchRuleChain (connection.named name) =
      router.matchRuleChain (connection.named other) := by
    refine congrArg (Option.map _) (find_congr fun rule listed => ?_)
    rw [routerOf_ruleChain] at listed
    have ⟨entry, member, compiled⟩ := ruleChainOf_mem listed
    have alike := (compileEntry_alike_iff known otherKnown labels compiled).mpr
      (chained entry member)
    exact rule.matches_congr fun matcher listed => alike matcher listed connection _
  have network : router.matchNetworkRules tables (connection.named name) =
      router.matchNetworkRules tables (connection.named other) := by
    have constrained := (newRouter_configured tables
      ⟨ruleChainOf tables entries geoIP geoSite providers, rules, defaultAction⟩ geoIP
      geoSite).constrained
    unfold Router.matchNetworkRules
    rw [find_congr fun rule listed => ?_]
    have ⟨source, member, made⟩ := mem_flatMap.mp (constrained ▸ listed)
    rw [NetworkRule.matches_of_undivided known otherKnown source (bound source member) connection
      rule made]
  have legacy : router.matchLegacy tables (connection.named name) =
      router.matchLegacy tables (connection.named other) := by
    unfold Router.matchLegacy Router.matchDomain Connection.named DomainTrie.lookup
    rw [key, labels]
    simp only [ne_eq, known, otherKnown]
  unfold Router.matchConnection
  rw [chain, network, legacy]

end Configured

/-! ## Categories in the chain and in the legacy rules -/

section Sites

variable {tables : CaseTables} {geoIP : Option GeoIPSnapshot} {geoSite : Option GeoSiteDB}
  {categories : List GoString} {action defaultAction : Action}

def geoSiteEntry (categories : List GoString) (action : Action) : RuleChainEntry where
  conditions := ⟨[], [], [], categories, [], [], [], [], [], [], [], []⟩
  logic := []
  negate := false
  action := action

def geoSiteRule (categories : List GoString) (action : Action) : Rule :=
  ⟨.geoSite, categories, action, []⟩

theorem geoSiteRule_suffixPairs (pair : GoString × Action) :
    pair ∈ (geoSiteRule categories action).suffixPairs geoSite ↔
      pair.2 = action ∧ ∃ category ∈ categories, pair.1 ∈ categorySites geoSite category := by
  have ⟨site, stored⟩ := pair
  cases geoSite with
  | none => simp [geoSiteRule, Rule.suffixPairs, categorySites]
  | some sites =>
    simp only [geoSiteRule, Rule.suffixPairs, if_true, mem_flatMap, mem_map, Prod.mk.injEq]
    constructor
    · rintro ⟨category, listed, other, inside, same, rfl⟩
      exact ⟨rfl, category, listed, same ▸ inside⟩
    · rintro ⟨same, category, listed, inside⟩
      exact ⟨category, listed, site, inside, rfl, same.symm⟩

theorem lookup_insertAll_mem {tables : UnicodeTables} {pairs : List (GoString × GoString)}
    {domain found : GoString}
    (looked : (DomainTrie.new.insertAll tables pairs).lookup tables domain = some found) :
    ∃ pair ∈ pairs, pair.2 = found := by
  rw [DomainTrie.lookup_eq, DomainTrie.valueAt_insertAll, DomainTrie.valueAt_new] at looked
  have ⟨path, _, stored⟩ := exists_of_findSome?_eq_some looked
  have ⟨pair, listed, same⟩ := mem_map.mp (GoMap.ofList_mem stored)
  cases same
  exact ⟨pair, listed, rfl⟩

theorem geoSiteRule_domainHit (connection : Connection) :
    let router := newRouter tables
      ⟨[], [geoSiteRule categories action], defaultAction⟩ geoIP geoSite
    (∀ found, router.domainHit tables connection = some found → found = action) ∧
      ((router.domainHit tables connection).isSome ↔
        connection.domain ≠ [] ∧ ∃ category ∈ categories,
          ∃ site ∈ categorySites geoSite category,
            Reaches tables site connection.domain) := by
  intro router
  have hit : router.domainHit tables connection =
      if connection.domain = [] then none
      else (DomainTrie.new.insertAll tables
        ((geoSiteRule categories action).suffixPairs geoSite)).lookup tables
          connection.domain := by
    have made : router = addRule tables
        (newRouter tables ⟨[], [], defaultAction⟩ geoIP geoSite)
        (geoSiteRule categories action) := rfl
    rw [made, addRule_eq]
    rfl
  rw [hit]
  by_cases unknown : connection.domain = []
  · simp [unknown]
  rw [if_neg unknown, DomainTrie.lookup_insertAll_isSome]
  constructor
  · intro found looked
    have ⟨pair, listed, same⟩ := lookup_insertAll_mem looked
    rw [← same]
    exact ((geoSiteRule_suffixPairs pair).mp listed).1
  · rw [and_iff_right unknown]
    constructor
    · rintro ⟨pair, listed, reaches⟩
      have ⟨_, category, inside, site⟩ := (geoSiteRule_suffixPairs pair).mp listed
      exact ⟨category, inside, pair.1, site, reaches⟩
    · rintro ⟨category, inside, site, listed, reaches⟩
      exact ⟨(site, action), (geoSiteRule_suffixPairs _).mpr ⟨rfl, category, inside, listed⟩,
        reaches⟩

section

variable (known : action = actionProxy ∨ action = actionDirect ∨ action = actionReject)

include known

theorem compileEntry_geoSiteEntry (providers : GoMap GoString RuleProvider) :
    compileEntry tables geoIP geoSite providers (geoSiteEntry categories action) =
      if categories = [] then .error .noCondition
      else .ok ⟨[newGeoSiteMatcher tables categories geoSite], .and, false, action⟩ := by
  have lowered : toLower tables action = action ∧ action ≠ [] := by
    rcases known with same | same | same
    all_goals
      rw [same]
      exact ⟨rfl, by decide +kernel⟩
  have compiledAction : compileAction tables action = .ok action := by
    rw [compileAction, lowered.1, if_neg lowered.2, if_pos known]
    rfl
  unfold compileEntry geoSiteEntry
  rw [compiledAction]
  by_cases blank : categories = []
  · rw [blank]
    rfl
  · rw [if_neg blank]
    unfold compileConditions condition
    rw [if_neg blank]
    rfl

theorem geoSiteEntry_voice (providers : GoMap GoString RuleProvider) (connection : Connection) :
    (newRouter tables
        ⟨ruleChainOf tables [geoSiteEntry categories action] geoIP geoSite providers, [],
          defaultAction⟩ geoIP geoSite).matchRuleChain connection =
      if newGeoSiteMatcher tables categories geoSite ⟨connection, []⟩ then some action
      else none := by
  have compiled := @compileEntry_geoSiteEntry tables geoIP geoSite categories action known providers
  by_cases blank : categories = []
  · rw [if_pos blank] at compiled
    have chain : ruleChainOf tables [geoSiteEntry categories action] geoIP geoSite providers =
        [] := by
      rw [ruleChainOf, compileRuleChain, compileFrom, compiled]
    rw [chain, if_neg]
    · rfl
    · rw [newGeoSiteMatcher_iff, blank]
      rintro ⟨_, category, listed, _⟩
      cases listed
  · rw [if_neg blank] at compiled
    have chain : ruleChainOf tables [geoSiteEntry categories action] geoIP geoSite providers =
        [⟨[newGeoSiteMatcher tables categories geoSite], .and, false, action⟩] := by
      rw [ruleChainOf, compileRuleChain, compileFrom, compiled]
      rfl
    rw [chain]
    have matched : CompiledRule.matches
        ⟨[newGeoSiteMatcher tables categories geoSite], .and, false, action⟩ ⟨connection, []⟩ =
        newGeoSiteMatcher tables categories geoSite ⟨connection, []⟩ := Bool.and_true _
    change (List.find? (fun rule => CompiledRule.matches rule ⟨connection, []⟩) [_]).map _ = _
    rw [List.find?_cons, matched]
    cases newGeoSiteMatcher tables categories geoSite ⟨connection, []⟩ with
    | true | false => rfl

end

end Sites

def blockingEntries : List RuleChainEntry :=
  [⟨⟨[lit "ads.example"], [], [], [], [], [], [], [], [], [], [], []⟩, [], false, actionReject⟩]

def blockingRouter : Router :=
  routerOf bytewiseCase blockingEntries [] [] none none GoMap.empty []

def connectionOf (domain : GoString) : Connection := ⟨domain, none, [], [], 443, none⟩

def adSites : GeoSiteDB := fun category =>
  if category = lit "ads" then some [lit "ads.example"] else none

end Shuttle.Router
