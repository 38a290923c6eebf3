import Shuttle.Router.RuleChain

/-!
# Building a router and routing connections

`engine/engine_setup.go` makes a router and the settings of a resolver from the configuration, and
`engine/inbound_router.go` decides with them where a connection goes. The resolver's operations, the
geodata, the rule sets and the outbounds are parameters.
-/

namespace Shuttle.Engine

open Shuttle.Go Shuttle.Router

/-! ## Configuration -/

structure GeoDataConfig where
  enabled : Bool
  dataDir : GoString
  autoUpdate : Bool
  updateInterval : GoString
  urls : List GoString

structure DNSConfig where
  domestic : GoString
  remoteServer : GoString
  remoteVia : GoString
  prefetch : Bool
  leakPrevention : Bool
  domesticDoH : GoString
  stripECS : Bool
  /-- Whether connections are kept; on when unset. -/
  persistentConn : Option Bool
  /-- "normal" or "fake-ip". -/
  mode : GoString
  fakeIPRange : GoString
  fakeIPFilter : List GoString
  hosts : List (GoString × GoString)
  domainPolicy : List (GoString × GoString)

structure ResolverConfig where
  domesticServer : GoString
  remoteServer : GoString
  remoteViaProxy : Bool
  cacheSize : Nat
  cacheTTL : Nat
  prefetch : Bool
  leakPrevention : Bool
  domesticDoH : GoString
  stripECS : Bool
  persistentConn : Bool
  /-- "normal" or "fake-ip". -/
  mode : GoString
  fakeIPRange : GoString
  fakeIPFilter : List GoString
  hosts : List (GoString × GoString)
  domainPolicy : List (GoString × GoString)

/-- A legacy rule of the configuration; the first field that is set gives its type. -/
structure RouteRule where
  domains : GoString
  geoSite : GoString
  geoIP : GoString
  process : List GoString
  protocol : GoString
  ipCIDR : List GoString
  networkType : GoString
  action : GoString

structure RoutingConfig where
  ruleChain : List RuleChainEntry
  rules : List RouteRule
  defaultAction : GoString
  dns : DNSConfig
  geoData : GeoDataConfig

structure RuleProviderConfig where
  name : GoString
  url : GoString
  path : GoString
  behavior : GoString
  interval : GoString

/-- A client configuration; `R` is everything that is neither routing nor the strategy. -/
structure ClientConfig (R : Type) where
  routing : RoutingConfig
  ruleProviders : List RuleProviderConfig
  preferred : GoString
  rest : R

def RoutingConfig.zero : RoutingConfig :=
  ⟨[], [], [], ⟨[], [], [], false, false, [], false, none, [], [], [], [], []⟩,
    ⟨false, [], false, [], []⟩⟩

/-! ## Surroundings -/

structure Outbound where
  tag : GoString
  type : GoString
deriving DecidableEq

/-- What the engine meets: data, resolvers and outbounds. `ρ` is the state of a resolver. -/
structure Environment (R ρ : Type) where
  tables : CaseTables
  /-- The GeoIP database of a manager's files; none when they cannot be read. -/
  geoIPEntries : GeoDataConfig → Option GeoIPSnapshot
  geoSiteEntries : GeoDataConfig → Option GeoSiteDB
  defaultGeoIP : GeoIPSnapshot
  defaultGeoSite : GeoSiteDB
  /-- The rules a provider has loaded or fetched by the time it has started. -/
  ruleSet : RuleProviderConfig → Option RuleSet
  newDNSResolver : ResolverConfig → GeoIPSnapshot → ρ
  /-- Resolve a name at a moment; none for an error. -/
  resolve : ρ → (moment : Nat) → GoString → Option (List IP) × ρ
  isFakeIP : ρ → IP → Bool
  reverseFakeIP : ρ → IP → Option GoString
  /-- The system's look-up of IPv4 addresses at a moment; none for an error. -/
  systemLookup : (moment : Nat) → GoString → Option (List IP)
  json : ClientConfig R → List UInt8
  /-- The check in front of a reload. -/
  precheck : ClientConfig R → Bool
  validate : ClientConfig R → Bool
  outbounds : ClientConfig R → GoMap GoString Outbound

structure Built (ρ : Type) where
  router : Router
  resolver : ρ

variable {R ρ : Type}

/-! ## Building a router -/

def configRuleToRouterRule (rule : RouteRule) : Rule :=
  if rule.domains ≠ [] then ⟨.domain, [rule.domains], rule.action, rule.networkType⟩
  else if rule.geoSite ≠ [] then ⟨.geoSite, [rule.geoSite], rule.action, rule.networkType⟩
  else if rule.geoIP ≠ [] then ⟨.geoIP, [rule.geoIP], rule.action, rule.networkType⟩
  else if rule.process ≠ [] then ⟨.process, rule.process, rule.action, rule.networkType⟩
  else if rule.protocol ≠ [] then ⟨.protocol, [rule.protocol], rule.action, rule.networkType⟩
  else if rule.ipCIDR ≠ [] then ⟨.ipCIDR, rule.ipCIDR, rule.action, rule.networkType⟩
  else ⟨.other, [], rule.action, rule.networkType⟩

def resolverConfig (dns : DNSConfig) : ResolverConfig where
  domesticServer := dns.domestic
  remoteServer := dns.remoteServer
  remoteViaProxy := dns.remoteVia = lit "proxy"
  cacheSize := 10000
  cacheTTL := 10 * 60 * 10 ^ 9
  prefetch := dns.prefetch
  leakPrevention := dns.leakPrevention
  domesticDoH := dns.domesticDoH
  stripECS := dns.stripECS
  persistentConn := dns.persistentConn.getD true
  mode := dns.mode
  fakeIPRange := dns.fakeIPRange
  fakeIPFilter := dns.fakeIPFilter
  hosts := dns.hosts
  domainPolicy := dns.domainPolicy

variable (env : Environment R ρ)

variable (manager : Option GeoDataConfig)

def geoDatabases : GeoIPSnapshot × GeoSiteDB :=
  match manager with
  | none => (env.defaultGeoIP, env.defaultGeoSite)
  | some settings =>
    match env.geoIPEntries settings, env.geoSiteEntries settings with
    | none, none => (env.defaultGeoIP, env.defaultGeoSite)
    | countries, sites => (countries.getD newGeoIPDB, sites.getD GoMap.empty)

def getOrCreateGeoManager (cfg : ClientConfig R) : GeoDataConfig :=
  manager.getD cfg.routing.geoData

/-- Build the router and the resolver of a configuration; also the manager left behind. -/
def buildRouter (cfg : ClientConfig R)
    (providers : GoMap GoString RuleProvider) : Built ρ × Option GeoDataConfig :=
  let used := if cfg.routing.geoData.enabled then some (getOrCreateGeoManager manager cfg) else none
  let databases := geoDatabases env used
  let chain := ruleChainOf env.tables cfg.routing.ruleChain (some databases.1) (some databases.2)
    providers
  let router := newRouter env.tables.toUnicodeTables
    ⟨chain, cfg.routing.rules.map configRuleToRouterRule, cfg.routing.defaultAction⟩
    (some databases.1) (some databases.2)
  let resolver := env.newDNSResolver (resolverConfig cfg.routing.dns) databases.1
  (⟨router, resolver⟩, if cfg.routing.geoData.enabled then used else manager)

def newRuleProvider (cfg : RuleProviderConfig) : Option RuleProvider :=
  if cfg.url = [] then none
  else if !(lit "http://").isPrefixOf cfg.url && !(lit "https://").isPrefixOf cfg.url then none
  else if cfg.behavior = lit "domain" ∨ cfg.behavior = lit "ipcidr" ∨
      cfg.behavior = lit "classical" then some ⟨cfg.name, env.ruleSet cfg⟩
  else none

/-- Providers by name; a later one of the same name replaces an earlier one. -/
def providersByName (providers : List RuleProvider) : GoMap GoString RuleProvider :=
  GoMap.ofList (providers.map fun provider => (provider.name, provider))

/-! ## Routing a connection -/

structure ConnMetadata where
  destination : GoString
  network : GoString
  process : GoString
  contextProcess : GoString
  protocol : GoString
  source : Option IP
  moment : Nat

inductive Decision where
  /-- "dns resolve %s" or "no DNS results for %s". -/
  | unresolved (host : GoString)
  /-- "no outbound for action %v". -/
  | noOutbound (action : Action)
  | dial (outbound : Outbound) (network address : GoString)
deriving DecidableEq

structure InboundRouter where
  built : Nat
  outbounds : GoMap GoString Outbound
  defaultOut : Option Outbound

def resolveTarget (resolver : ρ) (moment : Nat) (host : GoString) : Option IP × ρ :=
  match parseIP host with
  | some ip => (some ip, resolver)
  | none =>
    match env.resolve resolver moment host with
    | (some (ip :: _), next) => (some ip, next)
    | (_, next) => (((env.systemLookup moment host).getD []).head?, next)

def InboundRouter.outboundFor (inbound : InboundRouter) (action : Action) : Option Outbound :=
  if action = actionDirect then inbound.outbounds (lit "direct")
  else if action = actionReject then inbound.outbounds (lit "reject")
  else if action = actionProxy then inbound.defaultOut
  else (inbound.outbounds action).or inbound.defaultOut

/-- Decide about a connection with a router and a resolver, whose state may change. -/
def InboundRouter.routeConnection (inbound : InboundRouter) (env : Environment R ρ)
    (built : Built ρ) (metadata : ConnMetadata) : Decision × Built ρ :=
  let (host, port) := (splitHostPort metadata.destination).getD (metadata.destination, [])
  let (resolved, resolver) := resolveTarget env built.resolver metadata.moment host
  let next := { built with resolver }
  match resolved with
  | none => (.unresolved host, next)
  | some address =>
    let name := if env.isFakeIP resolver address then env.reverseFakeIP resolver address else none
    let host := name.getD host
    let ip := if name.isSome then none else some address
    let destination := match name with
      | none => metadata.destination
      | some domain => if port ≠ [] then joinHostPort domain port else domain
    let process := if metadata.process = [] then metadata.contextProcess else metadata.process
    let action := built.router.matchConnection env.tables.toUnicodeTables
      ⟨host, ip, process, metadata.protocol, (parseUint16 port).getD 0, metadata.source⟩
    match inbound.outboundFor action with
    | none => (.noOutbound action, next)
    | some outbound =>
      match ip with
      | some ip =>
        if outbound.type = lit "direct" ∧ port ≠ [] then
          (.dial outbound metadata.network (joinHostPort (ipString ip) port), next)
        else (.dial outbound metadata.network destination, next)
      | none => (.dial outbound metadata.network destination, next)

def InboundRouter.decisions (inbound : InboundRouter) (env : Environment R ρ) :
    Built ρ → List ConnMetadata → List Decision
  | _, [] => []
  | built, metadata :: rest =>
    (inbound.routeConnection env built metadata).1 ::
      inbound.decisions env (inbound.routeConnection env built metadata).2 rest

/-- An environment without databases and DNS. -/
def plainEnvironment : Environment Unit Unit where
  tables := bytewiseCase
  geoIPEntries := fun _ => none
  geoSiteEntries := fun _ => none
  defaultGeoIP := newGeoIPDB
  defaultGeoSite := GoMap.empty
  ruleSet := fun _ => none
  newDNSResolver := fun _ _ => ()
  resolve := fun resolver _ _ => (none, resolver)
  isFakeIP := fun _ _ => false
  reverseFakeIP := fun _ _ => none
  systemLookup := fun _ _ => none
  json := fun cfg => cfg.routing.defaultAction ++ cfg.preferred
  precheck := fun _ => true
  validate := fun _ => true
  outbounds := fun _ => GoMap.ofList
    [(lit "proxy", ⟨lit "proxy", lit "proxy"⟩), (lit "direct", ⟨lit "direct", lit "direct"⟩)]

end Shuttle.Engine
