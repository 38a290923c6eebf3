import Shuttle.Engine.Routing
import Shuttle.FakeIP.Pool

/-!
# The DNS resolver

`router/dns.go` answers a name from the fake-IP pool, the static hosts, the cache, a server chosen
by policy, or a domestic and a remote server asked at once; `engine/engine_setup.go` falls back to
the system's resolver. A resolution is modelled with the queries that leave the process.
-/

namespace Shuttle.Engine

open Shuttle.Go Shuttle.FakeIP List

/-! ## Queries and their outcomes -/

inductive Query where
  | doh (server name : GoString)
  | plain (server name : GoString)
  | system (name : GoString)
deriving DecidableEq

/-- The name goes to a plain server or to the system's resolver. -/
def Query.leaks : Query → Bool
  | doh _ _ => false
  | plain _ _ => true
  | system _ => true

structure DoHAnswer where
  type : Int
  data : GoString

inductive HTTPReply where
  | failed
  /-- A response; a body that is not the expected JSON has no answers. -/
  | responded (status : Nat) (answers : Option (List DoHAnswer))

/-- What a server answers, as a DoH server and as a plain one. -/
structure Reply where
  http : HTTPReply
  plain : Option (List IP)

structure Outcomes where
  now : Int
  policy : Reply
  domestic : Reply
  remote : Reply
  system : Option (List IP)
  domesticCancelled : Bool
  remoteCancelled : Bool
  abandoned : Bool
  /-- Names that the cache drops to make room. -/
  dropped : GoString → Bool

/-! ## The fake-IP pool of a resolver -/

/-- Text comparisons of the standard library. -/
structure Matching where
  tables : UnicodeTables
  /-- `filepath.Match`, false for a malformed pattern. -/
  glob : (pattern name : GoString) → Bool

structure Filter where
  exact : List GoString
  /-- Lowered endings, each with a leading dot. -/
  suffixes : List GoString
  patterns : List GoString

section Pool

variable (matching : Matching)

/-- Add one pattern to a filter; blank patterns are skipped. -/
def Filter.add (filter : Filter) (pattern : GoString) : Filter :=
  let p := toLower matching.tables (trimSpace pattern)
  if p = [] then filter
  else if (lit "+.").isPrefixOf p then { filter with suffixes := filter.suffixes ++ [p.drop 1] }
  else if p.any fun byte => (lit "*?[").contains byte then
    { filter with patterns := filter.patterns ++ [p] }
  else { filter with exact := filter.exact ++ [p] }

def newFilter (patterns : List GoString) : Filter :=
  patterns.foldl (Filter.add matching) ⟨[], [], []⟩

def Filter.shouldSkip (filter : Filter) (domain : GoString) : Bool :=
  let domain := toLower matching.tables (trimSpace domain)
  if domain = [] then false
  else filter.exact.contains domain ||
    filter.suffixes.any (fun suffix => suffix.isSuffixOf domain) ||
    filter.patterns.any fun pattern => matching.glob pattern domain

end Pool

structure FakeIPPool where
  network : UInt32
  bits : Nat
  filter : Filter
  pool : Pool

/-- `netip.ParsePrefix`: no zone, and no sign or leading zero in the length. -/
def parsePrefix (text : GoString) : Option Prefix :=
  (lastIndexByte text 0x2f).bind fun last =>
    let bitsStr := text.drop (last + 1)
    (parseAddr (text.take last)).bind fun addr =>
      if addr.zone ≠ [] then none
      else if 1 < bitsStr.length ∧ bitsStr.head? = some 0x30 then none
      else (decimal bitsStr).bind fun bits =>
        if addr.bitLen < bits then none else some ⟨addr, bits⟩

variable (matching : Matching)

def newFakeIPPool (cidr : Prefix) (patterns : List GoString) : Option FakeIPPool :=
  match newPool cidr, cidr.masked with
  | .ok pool, some (.v4 network, bits) => some ⟨network, bits, newFilter matching patterns, pool⟩
  | _, _ => none

def fourValue (four : IP) : UInt32 := UInt32.ofNat (ofBe four)

def FakeIPPool.isFakeIP (pool : FakeIPPool) (ip : IP) : Bool :=
  match to4 ip with
  | none => false
  | some four =>
    (fourValue four).toNat / 2 ^ (32 - pool.bits) == pool.network.toNat / 2 ^ (32 - pool.bits)

def FakeIPPool.reverse (pool : FakeIPPool) (ip : IP) : Option GoString :=
  (to4 ip).bind fun four => pool.pool.reverse (.v4 (fourValue four))

def addrSlice : Addr → IP
  | .zero => []
  | .v4 value => beBytes 4 value.toNat
  | .v6 value _ => beBytes 16 value.toNat

/-! ## The resolver -/

structure CacheEntry where
  ips : List IP
  expiresAt : Int

structure DNSResolver where
  config : ResolverConfig
  fakeIPPool : Option FakeIPPool
  cache : GoMap GoString CacheEntry

structure Resolution where
  ips : Option (List IP)
  queries : List Query

def orDefault (text default : GoString) : GoString := if text = [] then default else text

/-- The fake-IP pool of a configuration; none when its range cannot be used. -/
def poolOf (config : ResolverConfig) : Option FakeIPPool :=
  if config.mode = lit "fake-ip" then
    (parsePrefix (orDefault config.fakeIPRange (lit "198.18.0.0/15"))).bind fun cidr =>
      newFakeIPPool matching cidr config.fakeIPFilter
  else none

def newDNSResolver (config : ResolverConfig) : DNSResolver where
  config := { config with
    cacheSize := if config.cacheSize = 0 then 10000 else config.cacheSize
    cacheTTL := if config.cacheTTL = 0 then 10 * 60 * 10 ^ 9 else config.cacheTTL
    domesticServer := orDefault config.domesticServer (lit "223.5.5.5:53")
    remoteServer := orDefault config.remoteServer (lit "1.1.1.1:53") }
  fakeIPPool := poolOf matching config
  cache := GoMap.empty

/-- The addresses of a DoH response; none for an error. -/
def doDoHRequest : HTTPReply → Option (List IP)
  | .failed => none
  | .responded status answers =>
    if status ≠ 200 then none
    else answers.bind fun answers =>
      let ips := answers.filterMap fun answer =>
        if answer.type = 1 ∨ answer.type = 28 then parseIP answer.data else none
      if ips = [] then none else some ips

def isURL (server : GoString) : Bool :=
  (lit "https://").isPrefixOf server || (lit "http://").isPrefixOf server

def querySpecificServer (domain server : GoString) (reply : Reply) : Resolution :=
  if isURL server then ⟨doDoHRequest reply.http, [.doh server domain]⟩
  else ⟨reply.plain, [.plain server domain]⟩

variable (config : ResolverConfig)

variable (domain : GoString)

def queryDomestic (reply : Reply) : Resolution :=
  if config.domesticDoH ≠ [] then ⟨doDoHRequest reply.http, [.doh config.domesticDoH domain]⟩
  else if config.leakPrevention then ⟨none, []⟩
  else ⟨reply.plain, [.plain config.domesticServer domain]⟩

/-- Ask the remote server over DoH; a server that is no URL is replaced. -/
def queryRemote (reply : Reply) : Resolution :=
  let server := orDefault config.remoteServer (lit "https://1.1.1.1/dns-query")
  let server := if isURL server then server else lit "https://1.1.1.1/dns-query"
  ⟨doDoHRequest reply.http, [.doh server domain]⟩

/-- The domestic half of asking both, unless the context has ended. -/
def askDomestic (outcomes : Outcomes) : Resolution :=
  if outcomes.domesticCancelled then ⟨none, []⟩ else queryDomestic config domain outcomes.domestic

def askRemote (outcomes : Outcomes) : Resolution :=
  if outcomes.remoteCancelled then ⟨none, []⟩ else queryRemote config domain outcomes.remote

def ipsMatch (left right : List IP) : Bool := left.any fun ip => right.any (ipEqual ip)

def knownPoisonIPs : List GoString :=
  ["1.1.1.1", "8.8.8.8", "127.0.0.1", "0.0.0.0", "255.255.255.255", "74.125.127.102",
    "74.125.155.102", "74.125.39.102", "74.125.39.113", "209.85.229.138", "4.36.66.178",
    "8.7.198.45", "37.61.54.158", "46.82.174.68", "59.24.3.173", "64.33.88.161", "64.33.99.47",
    "64.66.163.251", "65.104.202.252", "65.160.219.113", "66.45.252.237", "72.14.205.104",
    "72.14.205.99", "78.16.49.15", "93.46.8.89", "203.98.7.65", "207.12.88.98", "208.56.31.43",
    "209.145.54.50", "209.220.30.174", "211.94.66.147", "213.169.251.35", "216.221.188.182"].map lit

def isPolluted (ips : List IP) : Bool := ips.any fun ip => knownPoisonIPs.contains (ipString ip)

def selectResult : Option (List IP) → Option (List IP) → Option (List IP)
  | none, none => none
  | none, some remote => some remote
  | some domestic, none => some domestic
  | some domestic, some remote =>
    if ipsMatch domestic remote then some domestic
    else if isPolluted domestic then some remote
    else some domestic

namespace DNSResolver

variable (matching : Matching) (resolver : DNSResolver) (outcomes : Outcomes) (domain : GoString)

def resolveHosts : Option IP :=
  let hosts := GoMap.ofList resolver.config.hosts
  match hosts domain with
  | some addr => parseIP addr
  | none =>
    match indexByte domain dot with
    | none => none
    | some position => (hosts (lit "*." ++ domain.drop (position + 1))).bind parseIP

def policyMatches (domain pattern : GoString) : Bool :=
  if (lit "+.").isPrefixOf pattern then
    domain == pattern.drop 2 || (dot :: pattern.drop 2).isSuffixOf domain
  else domain == pattern

/-- The server that the first matching policy names; empty when there is none. -/
def matchDomainPolicy : GoString :=
  ((resolver.config.domainPolicy.find? fun entry => policyMatches domain entry.1).map
    (·.2)).getD []

def cached (now : Int) (domain : GoString) : Option (List IP) :=
  (resolver.cache domain).bind fun entry =>
    if 0 < now - entry.expiresAt then none else some entry.ips

/-- Keep an answer; the cache may drop names to make room. -/
def store (ips : Option (List IP)) : DNSResolver :=
  match ips with
  | none => resolver
  | some ips =>
    let kept : GoMap GoString CacheEntry := fun name =>
      if outcomes.dropped name then none else resolver.cache name
    { resolver with
      cache := kept.set domain ⟨ips, outcomes.now + resolver.config.cacheTTL⟩ }

def poolFor : Option FakeIPPool :=
  resolver.fakeIPPool.filter fun pool => !pool.filter.shouldSkip matching domain

def resolve : Resolution × DNSResolver :=
  match resolver.poolFor matching domain with
  | some pool =>
    let (addr, next) := pool.pool.lookup domain
    (⟨some [addrSlice addr], []⟩, { resolver with fakeIPPool := some { pool with pool := next } })
  | none =>
    match resolver.resolveHosts domain with
    | some ip => (⟨some [ip], []⟩, resolver)
    | none =>
      match resolver.cached outcomes.now domain with
      | some ips => (⟨some ips, []⟩, resolver)
      | none =>
        let server := resolver.matchDomainPolicy domain
        if server ≠ [] then
          let asked := querySpecificServer domain server outcomes.policy
          (asked, resolver.store outcomes domain asked.ips)
        else
          let domestic := askDomestic resolver.config domain outcomes
          let remote := askRemote resolver.config domain outcomes
          let queries := domestic.queries ++ remote.queries
          if outcomes.abandoned then (⟨none, queries⟩, resolver)
          else
            let ips := selectResult domestic.ips remote.ips
            (⟨ips, queries⟩, resolver.store outcomes domain ips)

def isFakeIP (resolver : DNSResolver) (ip : IP) : Bool :=
  (resolver.fakeIPPool.map fun pool => pool.isFakeIP ip).getD false

def reverseFakeIP (ip : IP) : Option GoString :=
  resolver.fakeIPPool.bind fun pool => pool.reverse ip

/-- A literal address, else the first address of the resolver's answer, else of the system's. -/
def resolveTarget
    (host : GoString) : Option IP × List Query × DNSResolver :=
  match parseIP host with
  | some ip => (some ip, [], resolver)
  | none =>
    match resolver.resolve matching outcomes host with
    | (⟨some (ip :: _), queries⟩, next) => (some ip, queries, next)
    | (⟨_, queries⟩, next) =>
      ((outcomes.system.getD []).head?, queries ++ [.system host], next)

end DNSResolver

/-! ## Which resolutions stay private -/

section Privacy

variable {matching : Matching} {resolver : DNSResolver} {outcomes : Outcomes} {host : GoString}

theorem doDoHRequest_ne_nil (reply : HTTPReply) : doDoHRequest reply ≠ some [] := by
  cases reply with
  | failed => nofun
  | responded status answers =>
    rw [doDoHRequest]
    split
    · nofun
    cases answers with
    | none => nofun
    | some answers =>
      rw [Option.bind_some]
      dsimp only
      split
      · nofun
      · rename_i given
        intro empty
        exact given (Option.some.inj empty)

theorem selectResult_cases (domestic remote : Option (List IP)) :
    (selectResult domestic remote = none ↔ domestic = none ∧ remote = none) ∧
      ∀ ips, selectResult domestic remote = some ips → domestic = some ips ∨ remote = some ips := by
  cases domestic with
  | none =>
    cases remote with
    | none | some remote => simp [selectResult]
  | some domestic =>
    cases remote with
    | none => simp [selectResult]
    | some remote =>
      rw [selectResult]
      split
      · simp
      · split <;> simp

def DNSResolver.DomesticAnswers (resolver : DNSResolver) (outcomes : Outcomes) : Prop :=
  outcomes.domesticCancelled = false ∧ resolver.config.domesticDoH ≠ [] ∧
    (doDoHRequest outcomes.domestic.http).isSome

def RemoteAnswers (outcomes : Outcomes) : Prop :=
  outcomes.remoteCancelled = false ∧ (doDoHRequest outcomes.remote.http).isSome

/-- The ways in which the resolution of a host needs no plain server and not the system. -/
inductive StaysPrivate (matching : Matching) (resolver : DNSResolver) (outcomes : Outcomes)
    (host : GoString) : Prop where
  | literal (address : (parseIP host).isSome)
  | fake (given : (resolver.poolFor matching host).isSome)
  | hosts (real : resolver.poolFor matching host = none)
    (listed : (resolver.resolveHosts host).isSome)
  | cached (real : resolver.poolFor matching host = none)
    (unlisted : resolver.resolveHosts host = none)
    (fresh : ∃ ip rest, resolver.cached outcomes.now host = some (ip :: rest))
  /-- The first policy that covers the host names a DoH server, and it answers. -/
  | policy (real : resolver.poolFor matching host = none)
    (unlisted : resolver.resolveHosts host = none)
    (missed : resolver.cached outcomes.now host = none)
    (chosen : resolver.matchDomainPolicy host ≠ []) (url : isURL (resolver.matchDomainPolicy host))
    (answered : (doDoHRequest outcomes.policy.http).isSome)
  /-- No policy covers the host, and one of the two DoH servers answers in time. -/
  | split (real : resolver.poolFor matching host = none)
    (unlisted : resolver.resolveHosts host = none)
    (missed : resolver.cached outcomes.now host = none)
    (free : resolver.matchDomainPolicy host = []) (waited : outcomes.abandoned = false)
    (answered : resolver.DomesticAnswers outcomes ∨ RemoteAnswers outcomes)

def Private (queries : List Query) : Prop := ∀ query ∈ queries, query.leaks = false

theorem resolveTarget_private_iff (name : parseIP host = none) :
    Private (resolver.resolveTarget matching outcomes host).2.1 ↔
      Private (resolver.resolve matching outcomes host).1.queries ∧
        ∃ ip rest, (resolver.resolve matching outcomes host).1.ips = some (ip :: rest) := by
  have leak : ∀ queries : List Query, ¬Private (queries ++ [.system host]) := by
    intro queries isPrivate
    exact absurd (isPrivate _ (mem_append_right _ mem_cons_self)) nofun
  unfold DNSResolver.resolveTarget
  rw [name]
  have ⟨⟨ips, queries⟩, next⟩ := resolver.resolve matching outcomes host
  cases ips with
  | none => exact iff_of_false (leak queries) nofun
  | some ips =>
    cases ips with
    | nil => exact iff_of_false (leak queries) nofun
    | cons ip rest =>
      constructor
      · intro isPrivate
        exact ⟨isPrivate, ip, rest, rfl⟩
      · intro both
        exact both.1

theorem askDomestic_spec (prevented : resolver.config.leakPrevention = true) :
    Private (askDomestic resolver.config host outcomes).queries ∧
      (askDomestic resolver.config host outcomes).ips ≠ some [] ∧
      ((askDomestic resolver.config host outcomes).ips.isSome ↔
        resolver.DomesticAnswers outcomes) := by
  rw [askDomestic, DNSResolver.DomesticAnswers]
  cases outcomes.domesticCancelled with
  | true =>
    exact ⟨nofun, nofun, iff_of_false nofun nofun⟩
  | false =>
    rw [if_neg Bool.false_ne_true, queryDomestic, if_pos prevented]
    by_cases url : resolver.config.domesticDoH = []
    · rw [if_neg (not_not.mpr url)]
      exact ⟨nofun, nofun, iff_of_false nofun fun answers => answers.2.1 url⟩
    · rw [if_pos url]
      refine ⟨?_, doDoHRequest_ne_nil _, ?_⟩
      · intro query member
        rw [mem_singleton.mp member]
        rfl
      · rw [and_iff_right rfl, and_iff_right url]

theorem askRemote_spec :
    Private (askRemote resolver.config host outcomes).queries ∧
      (askRemote resolver.config host outcomes).ips ≠ some [] ∧
      ((askRemote resolver.config host outcomes).ips.isSome ↔ RemoteAnswers outcomes) := by
  rw [askRemote, RemoteAnswers]
  cases outcomes.remoteCancelled with
  | true =>
    exact ⟨nofun, nofun, iff_of_false nofun nofun⟩
  | false =>
    rw [and_iff_right rfl]
    refine ⟨?_, doDoHRequest_ne_nil _, Iff.rfl⟩
    intro query member
    rw [mem_singleton.mp member]
    rfl

theorem doDoHRequest_cons {reply : HTTPReply} (answered : (doDoHRequest reply).isSome) :
    ∃ ip rest, doDoHRequest reply = some (ip :: rest) := by
  cases reading : doDoHRequest reply with
  | none =>
    rw [reading] at answered
    cases answered
  | some ips =>
    cases ips with
    | nil => exact absurd reading (doDoHRequest_ne_nil reply)
    | cons ip rest => exact ⟨ip, rest, rfl⟩

theorem querySpecificServer_private_iff (domain server : GoString) (reply : Reply) :
    (Private (querySpecificServer domain server reply).queries ∧
        ∃ ip rest, (querySpecificServer domain server reply).ips = some (ip :: rest)) ↔
      isURL server = true ∧ (doDoHRequest reply.http).isSome := by
  rw [querySpecificServer]
  cases isURL server with
  | true =>
    constructor
    · rintro ⟨_, ip, rest, answered⟩
      exact ⟨rfl, by rw [show doDoHRequest reply.http = some (ip :: rest) from answered]; rfl⟩
    · rintro ⟨_, answered⟩
      refine ⟨?_, doDoHRequest_cons answered⟩
      intro query member
      rw [mem_singleton.mp member]
      rfl
  | false =>
    refine iff_of_false ?_ (fun both => absurd both.1 Bool.false_ne_true)
    rintro ⟨isPrivate, _⟩
    exact absurd (isPrivate _ mem_cons_self) nofun

theorem split_private_iff (prevented : resolver.config.leakPrevention = true) :
    Private ((askDomestic resolver.config host outcomes).queries ++
        (askRemote resolver.config host outcomes).queries) ∧
      ((∃ ip rest, selectResult (askDomestic resolver.config host outcomes).ips
          (askRemote resolver.config host outcomes).ips = some (ip :: rest)) ↔
        resolver.DomesticAnswers outcomes ∨ RemoteAnswers outcomes) := by
  have ⟨privateDomestic, domesticAddress, domestic⟩ :=
    @askDomestic_spec resolver outcomes host prevented
  have ⟨privateRemote, remoteAddress, remote⟩ := @askRemote_spec resolver outcomes host
  have ⟨neither, one⟩ := selectResult_cases (askDomestic resolver.config host outcomes).ips
    (askRemote resolver.config host outcomes).ips
  refine ⟨?_, ?_⟩
  · intro query member
    rcases mem_append.mp member with first | second
    · exact privateDomestic query first
    · exact privateRemote query second
  · rw [← domestic, ← remote]
    constructor
    · rintro ⟨ip, rest, chosen⟩
      rcases one _ chosen with same | same
      · exact .inl (by rw [same]; rfl)
      · exact .inr (by rw [same]; rfl)
    · intro answers
      cases chosen : selectResult (askDomestic resolver.config host outcomes).ips
          (askRemote resolver.config host outcomes).ips with
      | none =>
        have ⟨noDomestic, noRemote⟩ := neither.mp chosen
        rw [noDomestic, noRemote] at answers
        rcases answers with answers | answers
        all_goals cases answers
      | some ips =>
        cases ips with
        | nil =>
          rcases one _ chosen with same | same
          · exact absurd same domesticAddress
          · exact absurd same remoteAddress
        | cons ip rest => exact ⟨ip, rest, rfl⟩

end Privacy

def plainMatching : Matching := ⟨bytewiseTables, fun _ _ => false⟩

def guardedConfig (server : GoString) : ResolverConfig where
  domesticServer := lit "223.5.5.5:53"
  remoteServer := lit "https://1.1.1.1/dns-query"
  remoteViaProxy := true
  cacheSize := 10000
  cacheTTL := 600
  prefetch := false
  leakPrevention := true
  domesticDoH := []
  stripECS := false
  persistentConn := true
  mode := lit "normal"
  fakeIPRange := []
  fakeIPFilter := []
  hosts := []
  domainPolicy := [(lit "+.corp.example", server)]

def remoteOutcomes (remote : HTTPReply) : Outcomes where
  now := 0
  policy := ⟨.failed, some [[10, 0, 0, 1]]⟩
  domestic := ⟨.failed, none⟩
  remote := ⟨remote, none⟩
  system := some [[192, 0, 2, 1]]
  domesticCancelled := false
  remoteCancelled := false
  abandoned := false
  dropped := fun _ => false

end Shuttle.Engine
