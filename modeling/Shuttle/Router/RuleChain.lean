import Shuttle.Router.Router

/-!
# The rule chain and its compiler

`router/rule_chain.go` compiles the ordered rules of the configuration into matchers and refuses the
whole chain at the first entry with an unknown logic or action, an unreadable value, no condition,
or a rule provider that is not running. Rule providers (`provider/rule_provider.go`) keep the rule
set of their last successful download.
-/

namespace Shuttle.Router

open Shuttle.Go

def actionReject : Action := lit "reject"

structure RuleSet where
  domains : List GoString
  /-- Lowered suffixes, each with a leading dot. -/
  domainSuffixes : List GoString
  domainKeywords : List GoString
  cidrs : List IPNet

structure RuleProvider where
  name : GoString
  /-- Rules of the last successful load, none before the first. -/
  rules : Option RuleSet

/-- Conditions of an entry; a list without values is no condition. -/
structure RuleMatch where
  domain : List GoString
  domainSuffix : List GoString
  domainKeyword : List GoString
  geoSite : List GoString
  ipCIDR : List GoString
  geoIP : List GoString
  port : List GoString
  srcIP : List GoString
  process : List GoString
  protocol : List GoString
  networkType : List GoString
  ruleProvider : List GoString

structure RuleChainEntry where
  conditions : RuleMatch
  /-- How they are joined, "and" when empty. -/
  logic : GoString
  negate : Bool
  action : GoString

inductive EntryError where
  /-- "invalid logic %q (must be "and" or "or")". -/
  | invalidLogic (logic : GoString)
  /-- "action is required". -/
  | actionRequired
  /-- "invalid action %q". -/
  | invalidAction (action : GoString)
  /-- "invalid CIDR %q". -/
  | invalidCIDR (cidr : GoString)
  /-- "invalid port %q" or "invalid port range %q". -/
  | invalidPort (spec : GoString)
  /-- "no valid port specs provided". -/
  | noPorts
  /-- "invalid src_ip %q: not a valid CIDR or IP". -/
  | invalidSrcIP (spec : GoString)
  /-- "rule provider %q not found". -/
  | providerNotFound (name : GoString)
  /-- "at least one match condition is required". -/
  | noCondition

structure ChainError where
  /-- Position of the entry, as in "rule_chain[%d]". -/
  position : Nat
  error : EntryError

abbrev Matcher := MatchContext → Bool

section Code

variable (tables : CaseTables)

def RuleProvider.matchDomain (provider : RuleProvider) (domain : GoString) : Bool :=
  match provider.rules with
  | none => false
  | some rules =>
    let lower := toLower tables domain
    rules.domains.contains lower ||
      rules.domainSuffixes.any (fun suffix => suffix.isSuffixOf lower || lower == suffix.drop 1) ||
      rules.domainKeywords.any fun keyword => decide (keyword <:+: lower)

/-- Whether a textual address lies in a range of the provider's current rules. -/
def RuleProvider.matchIP (provider : RuleProvider) (text : GoString) : Bool :=
  match provider.rules with
  | none => false
  | some rules =>
    match parseIP text with
    | none => false
    | some ip => rules.cidrs.any fun cidr => cidr.contains ip

def nameMatcher (field : MatchContext → GoString) (names : List GoString) : Matcher :=
  let lowered := names.map (toLower tables)
  fun context =>
    field context != [] && lowered.contains (toLower tables (field context))

def newDomainExactMatcher (domains : List GoString) : Matcher :=
  nameMatcher tables (fun context => context.domain) domains

def newDomainSuffixMatcher (suffixes : List GoString) : Matcher :=
  let trie := suffixes.foldl (fun trie suffix =>
    let lower := toLower tables suffix
    (trie.insert tables (lit "+." ++ lower) (lit "match")).insert
      tables lower (lit "match")) DomainTrie.new
  fun context =>
    context.domain != [] && (trie.lookup tables context.domain).isSome

def newDomainKeywordMatcher (keywords : List GoString) : Matcher :=
  let lowered := keywords.map (toLower tables)
  fun context => context.domain != [] &&
    lowered.any fun keyword => decide (keyword <:+: toLower tables context.domain)

/-- Whether a domain is one of a category, with or without a leading "+.", or below it. -/
def siteMatches (domain site : GoString) : Bool :=
  let base := trimLead (toLower tables site) (lit "+.")
  domain == base || (dot :: base).isSuffixOf domain

def newGeoSiteMatcher (categories : List GoString) (sites : Option GeoSiteDB) : Matcher :=
  let lowered := categories.map (toLower tables)
  fun context => context.domain != [] &&
    match sites with
    | none => false
    | some sites => lowered.any fun category => (sites.lookup category).any fun site =>
        siteMatches tables (toLower tables context.domain) site

def rangeMatcher (field : MatchContext → Option IP) (ranges : List IPNet) : Matcher :=
  fun context =>
  match field context with
  | none => false
  | some ip => ranges.any fun range => range.contains ip

def newIPCIDRMatcher (cidrs : List GoString) : Except EntryError Matcher := do
  let ranges ← cidrs.mapM fun cidr =>
    match parseCIDR cidr with
    | none => throw (EntryError.invalidCIDR cidr)
    | some range => pure range
  pure (rangeMatcher (fun context => context.ip) ranges)

def newGeoIPMatcher (countries : List GoString) (db : Option GeoIPSnapshot) : Matcher :=
  let raised := countries.map (toUpper tables)
  fun context =>
    match context.ip, db with
    | some ip, some db => raised.contains (toUpper tables (db.lookupCountry ip))
    | _, _ => false

def parsePort (text : GoString) : Option UInt16 :=
  (parseUint16 (trimSpace text)).bind fun port => if port = 0 then none else some port

/-- A port or a range of ports; none for an empty text. -/
def parsePortSpec (text : GoString) : Except EntryError (Option (UInt16 × UInt16)) :=
  let spec := trimSpace text
  if spec = [] then pure none
  else match indexByte spec 0x2d with
    | some position =>
      match parsePort (spec.take position), parsePort (spec.drop (position + 1)) with
      | some low, some high =>
        if high < low then throw (.invalidPort spec) else pure (some (low, high))
      | _, _ => throw (.invalidPort spec)
    | none =>
      match parsePort spec with
      | none => throw (.invalidPort spec)
      | some port => pure (some (port, port))

def newPortMatcher (specs : List GoString) : Except EntryError Matcher := do
  let ranges := (← specs.mapM parsePortSpec).reduceOption
  if ranges = [] then throw EntryError.noPorts
  else pure fun context =>
    context.port != 0 && ranges.any fun range => range.1 ≤ context.port && context.port ≤ range.2

/-- A source range, or an address as a range of its own. -/
def parseSrcIP (spec : GoString) : Except EntryError IPNet :=
  match parseCIDR spec with
  | some range => pure range
  | none =>
    match parseIP spec with
    | none => throw (.invalidSrcIP spec)
    | some ip =>
      match to4 ip with
      | some four => pure ⟨four, leadingMask 4 32⟩
      | none => pure ⟨ip, leadingMask 16 128⟩

def newSrcIPMatcher (specs : List GoString) : Except EntryError Matcher := do
  let ranges ← specs.mapM parseSrcIP
  pure (rangeMatcher (fun context => context.srcIP) ranges)

variable (names : List GoString)

def newProcessMatcher : Matcher :=
  nameMatcher tables (fun context => context.process) names

def newProtocolMatcher : Matcher :=
  nameMatcher tables (fun context => context.protocol) names

def newNetworkTypeMatcher : Matcher :=
  nameMatcher tables (fun context => context.networkType) names

def ruleProviderMatcher (providers : List RuleProvider) : Matcher := fun context =>
  providers.any fun provider =>
    context.domain != [] && provider.matchDomain tables context.domain ||
      match context.ip with
      | none => false
      | some ip => provider.matchIP (ipString ip)

def findProviders (providers : GoMap GoString RuleProvider) (names : List GoString) :
    Except EntryError (List RuleProvider) :=
  names.mapM fun name =>
    match providers name with
    | none => throw (EntryError.providerNotFound name)
    | some provider => pure provider

def condition (values : List GoString) (compile : List GoString → Except EntryError Matcher) :
    Except EntryError (List Matcher) :=
  if values = [] then pure [] else do
    let matcher ← compile values
    pure [matcher]

def compileLogic (logic : GoString) : Except EntryError LogicOp :=
  let lower := toLower tables logic
  if lower = [] ∨ lower = lit "and" then pure .and
  else if lower = lit "or" then pure .or
  else throw (.invalidLogic logic)

def compileAction (action : GoString) : Except EntryError Action :=
  let lower := toLower tables action
  if lower = [] then throw .actionRequired
  else if lower = actionProxy ∨ lower = actionDirect ∨ lower = actionReject then pure lower
  else throw (.invalidAction action)

def compileConditions (geoIP : Option GeoIPSnapshot) (geoSite : Option GeoSiteDB)
    (providers : GoMap GoString RuleProvider) (conditions : RuleMatch) :
    Except EntryError (List Matcher) := do
  let domain ← condition conditions.domain fun v => pure (newDomainExactMatcher tables v)
  let suffix ← condition conditions.domainSuffix fun v => pure (newDomainSuffixMatcher tables v)
  let keyword ← condition conditions.domainKeyword fun v => pure (newDomainKeywordMatcher tables v)
  let site ← condition conditions.geoSite fun v => pure (newGeoSiteMatcher tables v geoSite)
  let range ← condition conditions.ipCIDR newIPCIDRMatcher
  let country ← condition conditions.geoIP fun v => pure (newGeoIPMatcher tables v geoIP)
  let port ← condition conditions.port newPortMatcher
  let source ← condition conditions.srcIP newSrcIPMatcher
  let process ← condition conditions.process fun v => pure (newProcessMatcher tables v)
  let protocol ← condition conditions.protocol fun v => pure (newProtocolMatcher tables v)
  let network ← condition conditions.networkType fun v => pure (newNetworkTypeMatcher tables v)
  let provider ← condition conditions.ruleProvider fun names => do
    let found ← findProviders providers names
    pure (ruleProviderMatcher tables found)
  pure (domain ++ suffix ++ keyword ++ site ++ range ++ country ++ port ++ source ++ process ++
    protocol ++ network ++ provider)

def compileEntry (geoIP : Option GeoIPSnapshot) (geoSite : Option GeoSiteDB)
    (providers : GoMap GoString RuleProvider) (entry : RuleChainEntry) :
    Except EntryError CompiledRule := do
  let logic ← compileLogic tables entry.logic
  let action ← compileAction tables entry.action
  let matchers ← compileConditions tables geoIP geoSite providers entry.conditions
  if matchers.isEmpty then throw .noCondition
  else pure ⟨matchers, logic, entry.negate, action⟩

/-- Compile the entries from a position on; the first error refuses them all. -/
def compileFrom (geoIP : Option GeoIPSnapshot) (geoSite : Option GeoSiteDB)
    (providers : GoMap GoString RuleProvider) :
    (position : Nat) → List RuleChainEntry → Except ChainError (List CompiledRule)
  | _, [] => .ok []
  | position, entry :: rest =>
    match compileEntry tables geoIP geoSite providers entry with
    | .error error => .error ⟨position, error⟩
    | .ok rule =>
      match compileFrom geoIP geoSite providers (position + 1) rest with
      | .error error => .error error
      | .ok rules => .ok (rule :: rules)

def compileRuleChain (entries : List RuleChainEntry) (geoIP : Option GeoIPSnapshot)
    (geoSite : Option GeoSiteDB) (providers : GoMap GoString RuleProvider) :
    Except ChainError (List CompiledRule) :=
  compileFrom tables geoIP geoSite providers 0 entries

/-- The chain of a router: a chain that does not compile is logged and left out. -/
def ruleChainOf (entries : List RuleChainEntry) (geoIP : Option GeoIPSnapshot)
    (geoSite : Option GeoSiteDB) (providers : GoMap GoString RuleProvider) : List CompiledRule :=
  match compileRuleChain tables entries geoIP geoSite providers with
  | .ok rules => rules
  | .error _ => []

end Code

section Compiled

variable {tables : CaseTables} {geoIP : Option GeoIPSnapshot} {geoSite : Option GeoSiteDB}
  {providers : GoMap GoString RuleProvider}

theorem except_bind_ok {ε α β : Type} {body : Except ε α} {next : α → Except ε β} {value : β} :
    (body >>= next) = .ok value ↔ ∃ result, body = .ok result ∧ next result = .ok value := by
  cases body with
  | error failure => exact iff_of_false nofun nofun
  | ok result =>
    constructor
    · intro rest
      exact ⟨result, rfl, rest⟩
    · rintro ⟨_, same, rest⟩
      cases same
      exact rest

theorem compileFrom_cons {entry : RuleChainEntry} {rest : List RuleChainEntry} {position : Nat}
    {rules : List CompiledRule}
    (compiled : compileFrom tables geoIP geoSite providers position (entry :: rest) = .ok rules) :
    ∃ rule others, compileEntry tables geoIP geoSite providers entry = .ok rule ∧
      compileFrom tables geoIP geoSite providers (position + 1) rest = .ok others ∧
      rules = rule :: others := by
  rw [compileFrom] at compiled
  cases first : compileEntry tables geoIP geoSite providers entry with
  | error error =>
    rw [first] at compiled
    cases compiled
  | ok rule =>
    rw [first] at compiled
    cases later : compileFrom tables geoIP geoSite providers (position + 1) rest with
    | error error =>
      rw [later] at compiled
      cases compiled
    | ok others =>
      rw [later] at compiled
      cases compiled
      exact ⟨rule, others, rfl, rfl, rfl⟩

end Compiled

end Shuttle.Router
