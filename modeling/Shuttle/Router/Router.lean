import Mathlib.Data.List.ReduceOption
import Shuttle.Router.GeoIP
import Shuttle.Router.Trie

/-!
# Routing decisions

`router/router.go` decides by an ordered chain of compiled rules, by rules bound to the current
network type, and by the legacy rules in the order protocol, process, domain, address, default. A
legacy category answers with the default action both when no rule matches and when a rule with that
action does, and `Match` takes either for a miss. The specification tells the two apart.
-/

set_option linter.dupNamespace false

namespace Shuttle.Router

open Shuttle.Go Shuttle.Lib List DomainTrie

abbrev Action := GoString

def actionProxy : Action := lit "proxy"

def actionDirect : Action := lit "direct"

/-- The rule types of the legacy rules; `other` stands for every text that is none of them. -/
inductive RuleType where
  | domain
  | domainSuffix
  | geoSite
  /-- A country; decided at look-up time by the GeoIP database. -/
  | geoIP
  | ipCIDR
  | process
  | protocol
  | other
  deriving DecidableEq

structure Rule where
  type : RuleType
  values : List GoString
  action : Action
  /-- Network type the rule is bound to; empty for none. -/
  networkType : GoString

structure IPRule where
  cidr : IPNet
  action : Action

structure NetworkRule where
  ruleType : RuleType
  values : List GoString
  action : Action
  networkType : GoString

/-- The fields of a connection that rules look at; a nil address is `none`. -/
structure Connection where
  domain : GoString
  ip : Option IP
  process : GoString
  protocol : GoString
  port : UInt16
  srcIP : Option IP

/-- What a matcher of the rule chain sees: the connection and the current network type. -/
structure MatchContext extends Connection where
  networkType : GoString

inductive LogicOp where
  | and
  | or

/-- An entry of the compiled rule chain; a matcher is its `Match` method. -/
structure CompiledRule where
  matchers : List (MatchContext → Bool)
  logic : LogicOp
  negate : Bool
  action : Action

/-- Evaluate the matchers with the rule's logic, then invert the result if asked to. -/
def CompiledRule.matches (rule : CompiledRule) (context : MatchContext) : Bool :=
  if rule.matchers.isEmpty then false
  else
    let result := match rule.logic with
      | .or => rule.matchers.any fun matcher => matcher context
      | .and => rule.matchers.all fun matcher => matcher context
    if rule.negate then !result else result

abbrev GeoSiteDB := GoMap GoString (List GoString)

/-- All domains of a category; an unknown category has none. -/
def GeoSiteDB.lookup (sites : GeoSiteDB) (category : GoString) : List GoString :=
  (sites category).getD []

structure Router where
  ruleChain : List CompiledRule
  exactDomain : GoMap GoString Action
  domainTrie : DomainTrie
  ipRules : List IPRule
  processMap : GoMap GoString Action
  protocolMap : GoMap GoString Action
  networkRules : List NetworkRule
  geoIP : Option GeoIPSnapshot
  geoSite : Option GeoSiteDB
  defaultAct : Action
  networkType : GoString

/-- The chain is what `CompileRuleChain` made of its entries, empty when there are none or they do
not compile. -/
structure RouterConfig where
  ruleChain : List CompiledRule
  rules : List Rule
  /-- Action when nothing matches; empty for the built-in one. -/
  defaultAction : Action

section Code

variable (tables : UnicodeTables)

def domainKey (domain : GoString) : GoString := toLower tables (trimTail domain (lit "."))

variable (router : Router)

def addRule (rule : Rule) : Router :=
  if rule.networkType ≠ [] then
    { router with
      networkRules := router.networkRules ++
        [⟨rule.type, rule.values, rule.action, toLower tables rule.networkType⟩] }
  else match rule.type with
    | .domain =>
      { router with
        exactDomain := rule.values.foldl
          (fun map v => map.set (domainKey tables v) rule.action) router.exactDomain }
    | .domainSuffix =>
      { router with
        domainTrie := rule.values.foldl
          (fun trie v => trie.insert tables v rule.action) router.domainTrie }
    | .geoSite =>
      match router.geoSite with
      | none => router
      | some sites =>
        { router with
          domainTrie := rule.values.foldl
            (fun trie v => (sites.lookup v).foldl
              (fun trie d => trie.insert tables d rule.action) trie) router.domainTrie }
    | .geoIP => router
    | .ipCIDR =>
      { router with
        ipRules := rule.values.foldl
          (fun rules v => match parseCIDR v with
            | none => rules
            | some cidr => rules ++ [⟨cidr, rule.action⟩]) router.ipRules }
    | .process =>
      { router with
        processMap := rule.values.foldl
          (fun map v => map.set (toLower tables v) rule.action) router.processMap }
    | .protocol =>
      { router with
        protocolMap := rule.values.foldl
          (fun map v => map.set (toLower tables v) rule.action) router.protocolMap }
    | .other => router

def newRouter (config : RouterConfig) (geoIP : Option GeoIPSnapshot)
    (geoSite : Option GeoSiteDB) : Router :=
  config.rules.foldl (addRule tables)
    { ruleChain := config.ruleChain
      exactDomain := GoMap.empty
      domainTrie := new
      ipRules := []
      processMap := GoMap.empty
      protocolMap := GoMap.empty
      networkRules := []
      geoIP := geoIP
      geoSite := geoSite
      defaultAct := if config.defaultAction = [] then actionProxy else config.defaultAction
      networkType := [] }

def Router.setNetworkType (networkType : GoString) : Router :=
  { router with networkType := toLower tables networkType }

/-- Whether one value of a network rule names the domain; only a value that starts with "+."
covers subdomains. -/
def networkDomainMatches (domain v : GoString) : Bool :=
  let lowerDomain := toLower tables domain
  if (lit "+.").isPrefixOf v then
    let suffix := toLower tables (v.drop 2)
    lowerDomain == suffix || (dot :: suffix).isSuffixOf lowerDomain
  else lowerDomain == toLower tables v

def NetworkRule.matches (rule : NetworkRule) (connection : Connection) : Bool :=
  match rule.ruleType with
  | .domain | .domainSuffix =>
    connection.domain != [] && rule.values.any (networkDomainMatches tables connection.domain)
  | .ipCIDR =>
    match connection.ip with
    | none => false
    | some ip => rule.values.any fun v =>
        match parseCIDR v with
        | none => false
        | some cidr => cidr.contains ip
  | .process => connection.process != [] && rule.values.any (equalFold tables · connection.process)
  | .protocol =>
    connection.protocol != [] && rule.values.any (equalFold tables · connection.protocol)
  | .geoSite | .geoIP | .other => false

variable (connection : Connection)

def Router.matchNetworkRules : Option Action :=
  if router.networkRules.isEmpty || router.networkType == [] then none
  else (router.networkRules.find? fun rule =>
    rule.networkType == router.networkType && rule.matches tables connection).map (·.action)

def Router.matchDomain (domain : GoString) : Action :=
  match router.exactDomain (domainKey tables domain) with
  | some action => action
  | none =>
    match router.domainTrie.lookup tables domain with
    | some action => action
    | none => router.defaultAct

/-- The action for an address: the first range that contains it, then the country. -/
def Router.matchIP (ip : IP) : Action :=
  match router.ipRules.find? fun rule => rule.cidr.contains ip with
  | some rule => rule.action
  | none =>
    match router.geoIP with
    | none => router.defaultAct
    | some countries =>
      if countries.lookupCountry ip = lit "CN" then actionDirect else router.defaultAct

def Router.matchProcess (name : GoString) : Action :=
  match router.processMap (toLower tables name) with
  | some action => action
  | none => router.defaultAct

def Router.matchProtocol (protocol : GoString) : Action :=
  match router.protocolMap (toLower tables protocol) with
  | some action => action
  | none => router.defaultAct

def Router.matchRuleChain : Option Action :=
  (router.ruleChain.find? fun rule => rule.matches ⟨connection, router.networkType⟩).map (·.action)

def Router.matchLegacy : Action :=
  let byProtocol := router.matchProtocol tables connection.protocol
  let byProcess := router.matchProcess tables connection.process
  let byDomain := router.matchDomain tables connection.domain
  if connection.protocol ≠ [] ∧ byProtocol ≠ router.defaultAct then byProtocol
  else if connection.process ≠ [] ∧ byProcess ≠ router.defaultAct then byProcess
  else if connection.domain ≠ [] ∧ byDomain ≠ router.defaultAct then byDomain
  else match connection.ip with
    | some ip => router.matchIP ip
    | none => router.defaultAct

def Router.matchConnection : Action :=
  match router.matchRuleChain connection with
  | some action => action
  | none =>
    match router.matchNetworkRules tables connection with
    | some action => action
    | none => router.matchLegacy tables connection

end Code

section Specification

variable (tables : UnicodeTables)

variable (router : Router)

variable (connection : Connection)

def Router.protocolHit : Option Action :=
  if connection.protocol = [] then none
  else router.protocolMap (toLower tables connection.protocol)

def Router.processHit : Option Action :=
  if connection.process = [] then none
  else router.processMap (toLower tables connection.process)

/-- The action of the explicit domain rule that matches, exact rules first, if any. -/
def Router.domainHit : Option Action :=
  if connection.domain = [] then none
  else (router.exactDomain (domainKey tables connection.domain)).or
    (router.domainTrie.lookup tables connection.domain)

/-- The action for an address whose country is known to be direct, if it is. -/
def countryHit (geoIP : Option GeoIPSnapshot) (ip : IP) : Option Action :=
  geoIP.bind fun countries =>
    if countries.lookupCountry ip = lit "CN" then some actionDirect else none

/-- The action of the explicit address rule that matches, ranges first, if any. -/
def Router.ipHit : Option Action :=
  connection.ip.bind fun ip =>
    ((router.ipRules.find? fun rule => rule.cidr.contains ip).map (·.action)).or
      (countryHit router.geoIP ip)

/-- Actions of the categories that have a matching rule, in the order of the categories. -/
def Router.hits : List Action :=
  [router.protocolHit tables connection, router.processHit tables connection,
    router.domainHit tables connection, router.ipHit connection].reduceOption

/-- The decision of the first category that has a matching rule, or the default action. -/
def Router.firstHit : Action :=
  (router.hits tables connection).headD router.defaultAct

/-- What a rule stores under normalised values in the table of one type. -/
def Rule.pairs (normalise : GoString → GoString) (type : RuleType) (rule : Rule) :
    List (GoString × Action) :=
  if rule.networkType = [] ∧ rule.type = type then
    rule.values.map fun v => (normalise v, rule.action)
  else []

def Rule.suffixPairs (geoSite : Option GeoSiteDB) (rule : Rule) : List (GoString × Action) :=
  if rule.networkType = [] then
    match rule.type, geoSite with
    | .domainSuffix, _ => rule.values.map fun v => (v, rule.action)
    | .geoSite, some sites =>
      rule.values.flatMap fun v => (sites.lookup v).map fun d => (d, rule.action)
    | _, _ => []
  else []

/-- The address ranges of a rule; values that are no range are dropped. -/
def Rule.ranges (rule : Rule) : List IPRule :=
  if rule.networkType = [] ∧ rule.type = .ipCIDR then
    (rule.values.filterMap parseCIDR).map fun cidr => ⟨cidr, rule.action⟩
  else []

def Rule.constrained (rule : Rule) : List NetworkRule :=
  if rule.networkType = [] then []
  else [⟨rule.type, rule.values, rule.action, toLower tables rule.networkType⟩]

structure Configured (router : Router) (rules : List Rule) : Prop where
  exact : router.exactDomain =
    GoMap.ofList (rules.flatMap (Rule.pairs (domainKey tables) .domain))
  suffixes : router.domainTrie.root.valueAt =
    GoMap.ofList (paths tables (rules.flatMap (Rule.suffixPairs router.geoSite)))
  ranges : router.ipRules = rules.flatMap Rule.ranges
  processes : router.processMap =
    GoMap.ofList (rules.flatMap (Rule.pairs (toLower tables) .process))
  protocols : router.protocolMap =
    GoMap.ofList (rules.flatMap (Rule.pairs (toLower tables) .protocol))
  constrained : router.networkRules = rules.flatMap (Rule.constrained tables)

end Specification

section Building

variable {tables : UnicodeTables} {router : Router} {rules : List Rule} {rule : Rule}

theorem foldl_ranges (ranges : List IPRule) (values : List GoString) (action : Action) :
    values.foldl (fun rules v => match parseCIDR v with
        | none => rules
        | some cidr => rules ++ [⟨cidr, action⟩]) ranges =
      ranges ++ (values.filterMap parseCIDR).map fun cidr => ⟨cidr, action⟩ := by
  induction values generalizing ranges with
  | nil => simp
  | cons v rest ih =>
    rw [foldl_cons, ih, filterMap_cons]
    cases parseCIDR v with
    | none => rfl
    | some cidr => simp

theorem addRule_eq (tables : UnicodeTables) (router : Router) (rule : Rule) :
    addRule tables router rule =
      { router with
        exactDomain := router.exactDomain.setAll (rule.pairs (domainKey tables) .domain)
        domainTrie := router.domainTrie.insertAll tables (rule.suffixPairs router.geoSite)
        ipRules := router.ipRules ++ rule.ranges
        processMap := router.processMap.setAll (rule.pairs (toLower tables) .process)
        protocolMap := router.protocolMap.setAll (rule.pairs (toLower tables) .protocol)
        networkRules := router.networkRules ++ rule.constrained tables } := by
  have ⟨type, values, action, networkType⟩ := rule
  by_cases free : networkType = []
  · subst free
    cases type with
    | geoSite =>
      have ⟨_, _, _, _, _, _, _, _, geoSite, _, _⟩ := router
      cases geoSite with
      | none =>
        simp [addRule, Rule.pairs, Rule.suffixPairs, Rule.ranges, Rule.constrained,
          GoMap.setAll, insertAll]
      | some sites =>
        simp [addRule, Rule.pairs, Rule.suffixPairs, Rule.ranges, Rule.constrained,
          GoMap.setAll, insertAll, foldl_flatMap, foldl_map]
    | _ =>
      simp [addRule, Rule.pairs, Rule.suffixPairs, Rule.ranges, Rule.constrained, GoMap.setAll,
        insertAll, foldl_map, foldl_ranges]
  · simp [addRule, Rule.pairs, Rule.suffixPairs, Rule.ranges, Rule.constrained, GoMap.setAll,
      insertAll, free]

theorem Configured.addRule (configured : Configured tables router rules) (rule : Rule) :
    Configured tables (addRule tables router rule) (rules ++ [rule]) := by
  have extended : ∀ {α : Type} (stores : Rule → List α),
      (rules ++ [rule]).flatMap stores = rules.flatMap stores ++ stores rule := by
    intro α stores
    rw [flatMap_append, flatMap_singleton]
  rw [addRule_eq]
  constructor
  · rw [extended, GoMap.ofList_append, ← configured.exact]
  · dsimp only
    rw [extended, valueAt_insertAll, configured.suffixes, ← GoMap.ofList_append,
      paths, paths, paths, map_append]
  · rw [extended, ← configured.ranges]
  · rw [extended, GoMap.ofList_append, ← configured.processes]
  · rw [extended, GoMap.ofList_append, ← configured.protocols]
  · rw [extended, ← configured.constrained]

theorem Configured.addRules (configured : Configured tables router rules) (more : List Rule) :
    Configured tables (more.foldl (Router.addRule tables) router) (rules ++ more) := by
  induction more generalizing router rules with
  | nil => simpa using configured
  | cons rule rest ih =>
    have later := ih (configured.addRule rule)
    rw [append_assoc] at later
    exact later

theorem addRules_frame (tables : UnicodeTables) (router : Router) (rules : List Rule) :
    (rules.foldl (addRule tables) router).ruleChain = router.ruleChain ∧
      (rules.foldl (addRule tables) router).geoIP = router.geoIP ∧
      (rules.foldl (addRule tables) router).geoSite = router.geoSite ∧
      (rules.foldl (addRule tables) router).defaultAct = router.defaultAct := by
  induction rules generalizing router with
  | nil => exact ⟨rfl, rfl, rfl, rfl⟩
  | cons rule rest ih =>
    have later := ih (addRule tables router rule)
    rw [addRule_eq tables router rule] at later
    rw [foldl_cons, addRule_eq tables router rule]
    exact later

theorem newRouter_frame (tables : UnicodeTables) (config : RouterConfig)
    (geoIP : Option GeoIPSnapshot) (geoSite : Option GeoSiteDB) :
    (newRouter tables config geoIP geoSite).ruleChain = config.ruleChain ∧
      (newRouter tables config geoIP geoSite).geoIP = geoIP ∧
      (newRouter tables config geoIP geoSite).geoSite = geoSite ∧
      (newRouter tables config geoIP geoSite).defaultAct =
        if config.defaultAction = [] then actionProxy else config.defaultAction :=
  addRules_frame tables _ config.rules

theorem newRouter_configured (tables : UnicodeTables) (config : RouterConfig)
    (geoIP : Option GeoIPSnapshot) (geoSite : Option GeoSiteDB) :
    Configured tables (newRouter tables config geoIP geoSite) config.rules := by
  refine @Configured.addRules tables _ [] ⟨rfl, ?_, rfl, rfl, rfl, rfl⟩ config.rules
  exact valueAt_new

end Building

section Decision

variable {tables : UnicodeTables}

/-- The action that the rules of a configuration give a name, exact ones first, if any. -/
def decidedDomain (tables : UnicodeTables) (rules : List Rule) (geoSite : Option GeoSiteDB)
    (domain : GoString) : Option Action :=
  (GoMap.ofList (rules.flatMap (Rule.pairs (domainKey tables) .domain))
      (domainKey tables domain)).or
    ((LabelTrie.stations wildcardLabel (reverseDomain tables domain)).reverse.findSome?
      (GoMap.ofList (paths tables (rules.flatMap (Rule.suffixPairs geoSite)))))

theorem newRouter_matchDomain (config : RouterConfig) (geoIP : Option GeoIPSnapshot)
    (geoSite : Option GeoSiteDB) (domain : GoString) :
    (newRouter tables config geoIP geoSite).matchDomain tables domain =
      (decidedDomain tables config.rules geoSite domain).getD
        (if config.defaultAction = [] then actionProxy else config.defaultAction) := by
  have configured := newRouter_configured tables config geoIP geoSite
  have ⟨_, _, sites, default⟩ := newRouter_frame tables config geoIP geoSite
  have suffixes := configured.suffixes
  rw [sites] at suffixes
  rw [Router.matchDomain, configured.exact, lookup_eq, suffixes, default, decidedDomain]
  cases GoMap.ofList (config.rules.flatMap (Rule.pairs (domainKey tables) .domain))
      (domainKey tables domain) with
  | some action => rfl
  | none =>
    cases (LabelTrie.stations wildcardLabel (reverseDomain tables domain)).reverse.findSome? _ with
    | some action | none => rfl

structure Answers (default : Action) (known : Prop) (answer : Action) (hit : Option Action) :
    Prop where
  missing : ¬known → hit = none
  answered : known → answer = hit.getD default

variable (router : Router) (default : Action)

theorem answers_of_found (field : GoString) (found : Option Action) :
    Answers default (field ≠ []) (match found with
        | some action => action
        | none => default)
      (if field = [] then none else found) where
  missing := fun unknown => if_pos (not_not.mp unknown)
  answered := by
    intro known
    rw [if_neg known]
    cases found with
    | none | some action => rfl

variable (connection : Connection)

theorem answers_protocol :
    Answers router.defaultAct (connection.protocol ≠ [])
      (router.matchProtocol tables connection.protocol) (router.protocolHit tables connection) :=
  answers_of_found ..

theorem answers_process :
    Answers router.defaultAct (connection.process ≠ [])
      (router.matchProcess tables connection.process) (router.processHit tables connection) :=
  answers_of_found ..

theorem answers_domain :
    Answers router.defaultAct (connection.domain ≠ [])
      (router.matchDomain tables connection.domain) (router.domainHit tables connection) := by
  have answers := answers_of_found router.defaultAct connection.domain
    ((router.exactDomain (domainKey tables connection.domain)).or
      (router.domainTrie.lookup tables connection.domain))
  unfold Router.matchDomain Router.domainHit
  cases exact : router.exactDomain (domainKey tables connection.domain) with
  | some action | none =>
    rw [exact] at answers
    exact answers

theorem answers_ip :
    (match connection.ip with
      | some ip => router.matchIP ip
      | none => router.defaultAct) = (router.ipHit connection).getD router.defaultAct := by
  unfold Router.ipHit
  cases connection.ip with
  | none => rfl
  | some ip =>
    dsimp only
    unfold Router.matchIP countryHit
    rw [Option.bind_some]
    cases router.ipRules.find? fun rule => rule.cidr.contains ip with
    | some rule => rfl
    | none =>
      cases router.geoIP with
      | none => rfl
      | some countries =>
        by_cases direct : countries.lookupCountry ip = lit "CN" <;> simp [direct]

def firstOther (hits : List Action) : Action :=
  (hits.find? (· ≠ default)).getD default

theorem Answers.firstOther_cons {default answer : Action} {known : Prop} [Decidable known]
    {hit : Option Action} (answers : Answers default known answer hit)
    (rest : List (Option Action)) :
    firstOther default (hit :: rest).reduceOption =
      if known ∧ answer ≠ default then answer else firstOther default rest.reduceOption := by
  by_cases applies : known
  · have answered := answers.answered applies
    cases hit with
    | none => simp [answered]
    | some action =>
      by_cases same : action = default
      · simp [answered, firstOther, same]
      · simp [answered, firstOther, same, applies]
  · simp [answers.missing applies, applies]

theorem firstOther_last (hit : Option Action) :
    firstOther default [hit].reduceOption = hit.getD default := by
  cases hit with
  | none => rfl
  | some action =>
    by_cases same : action = default <;> simp [firstOther, same]

theorem matchLegacy_eq :
    router.matchLegacy tables connection =
      firstOther router.defaultAct (router.hits tables connection) := by
  rw [Router.hits, (answers_protocol router connection).firstOther_cons,
    (answers_process router connection).firstOther_cons,
    (answers_domain router connection).firstOther_cons, firstOther_last, ← answers_ip]
  rfl

theorem firstOther_eq_headD_iff (hits : List Action) :
    firstOther default hits = hits.headD default ↔
      (hits.head? = some default → ∀ hit ∈ hits, hit = default) := by
  cases hits with
  | nil => simp [firstOther]
  | cons hit rest =>
    by_cases same : hit = default
    · subst same
      have skipped : firstOther hit (hit :: rest) = firstOther hit rest := by
        simp [firstOther]
      rw [skipped, firstOther]
      cases search : rest.find? (· ≠ hit) with
      | none =>
        have all : ∀ other ∈ rest, other = hit := by simpa using List.find?_eq_none.mp search
        simpa using all
      | some action =>
        have distinct : action ≠ hit := by simpa using List.find?_some search
        exact iff_of_false distinct fun all => distinct (all rfl action
          (mem_cons_of_mem hit (mem_of_find?_eq_some search)))
    · simp [firstOther, same]

theorem matchConnection_legacy (noChain : router.ruleChain = [])
    (unconstrained : router.networkRules = []) (connection : Connection) :
    router.matchConnection tables connection = router.matchLegacy tables connection := by
  have chain : router.matchRuleChain connection = none := by
    rw [Router.matchRuleChain, noChain]
    rfl
  have network : router.matchNetworkRules tables connection = none := by
    rw [Router.matchNetworkRules, unconstrained]
    rfl
  rw [Router.matchConnection, chain]
  rw [network]

end Decision

/-- Without a rule chain and network rules the decision is that of the first category with a
matching rule if and only if that rule's action is not the default one or every matching category
agrees on the default action. -/
theorem matchConnection_first_hit_iff (tables : UnicodeTables) (config : RouterConfig)
    (geoIP : Option GeoIPSnapshot) (geoSite : Option GeoSiteDB) (networkType : GoString)
    (connection : Connection) (noChain : config.ruleChain = [])
    (unconstrained : ∀ rule ∈ config.rules, rule.networkType = []) :
    let router := (newRouter tables config geoIP geoSite).setNetworkType tables networkType
    router.matchConnection tables connection = router.firstHit tables connection ↔
      ((router.hits tables connection).head? = some router.defaultAct →
        ∀ hit ∈ router.hits tables connection, hit = router.defaultAct) := by
  intro router
  have chain : router.ruleChain = [] :=
    (newRouter_frame tables config geoIP geoSite).1.trans noChain
  have network : router.networkRules = [] := by
    have stored := (newRouter_configured tables config geoIP geoSite).constrained
    refine stored.trans (flatMap_eq_nil_iff.mpr ?_)
    intro rule member
    exact if_pos (unconstrained rule member)
  rw [matchConnection_legacy router chain network, matchLegacy_eq]
  exact firstOther_eq_headD_iff router.defaultAct (router.hits tables connection)

def plainTables : UnicodeTables := ⟨id, fun left right => left == right⟩

def shadowedConfig : RouterConfig where
  ruleChain := []
  rules := [⟨.domain, [lit "example.com"], actionProxy, []⟩,
    ⟨.ipCIDR, [lit "10.0.0.0/8"], actionDirect, []⟩]
  defaultAction := []

def connectionTo (domain : GoString) (ip : IP) : Connection where
  domain := domain
  ip := some ip
  process := []
  protocol := []
  port := 443
  srcIP := none

def shadowedRouter : Router :=
  (newRouter plainTables shadowedConfig none none).setNetworkType plainTables []

theorem unlisted_name_by_address :
    shadowedRouter.matchConnection plainTables
        (connectionTo (lit "example.org") [10, 1, 2, 3]) = actionDirect ∧
      shadowedRouter.firstHit plainTables
        (connectionTo (lit "example.org") [10, 1, 2, 3]) = actionDirect := by
  have first : shadowedRouter.firstHit plainTables
      (connectionTo (lit "example.org") [10, 1, 2, 3]) = actionDirect := by decide +kernel
  have agrees := (matchConnection_first_hit_iff plainTables shadowedConfig none none []
    (connectionTo (lit "example.org") [10, 1, 2, 3]) rfl (by decide)).mpr fun head =>
      absurd head (by decide +kernel)
  exact ⟨agrees.trans first, first⟩

/-- The explicit rule that sends the name through the proxy loses to the later address rule. -/
theorem explicit_default_skipped :
    shadowedRouter.hits plainTables (connectionTo (lit "example.com") [10, 1, 2, 3]) =
        [actionProxy, actionDirect] ∧
      shadowedRouter.firstHit plainTables (connectionTo (lit "example.com") [10, 1, 2, 3]) =
        actionProxy ∧
      shadowedRouter.matchConnection plainTables
        (connectionTo (lit "example.com") [10, 1, 2, 3]) = actionDirect := by
  decide +kernel

end Shuttle.Router
