import Shuttle.Engine.Resolver
import Shuttle.Go.IPv6Text
import Shuttle.Lib.Machine

/-!
# Fake addresses and dialing

In fake-IP mode `RouteConnection` replaces a fake destination by the name the pool gave the address
to. An address of the range without a name, after a restart or because an answer points into the
range, stays as it is and is dialed. Runs are resolutions, connections and restarts of the process
in any order.
-/

namespace Shuttle.Engine

open Shuttle.Go Shuttle.Router Shuttle.Lib Option

variable {R ρ : Type}

/-! ## Connections with the resolver -/

/-- Surroundings with the resolver of this process. -/
def realEnvironment (base : Environment R ρ) (matching : Matching)
    (outcomes : Nat → GoString → Outcomes) : Environment R DNSResolver where
  tables := base.tables
  geoIPEntries := base.geoIPEntries
  geoSiteEntries := base.geoSiteEntries
  defaultGeoIP := base.defaultGeoIP
  defaultGeoSite := base.defaultGeoSite
  ruleSet := base.ruleSet
  newDNSResolver := fun config _ => newDNSResolver matching config
  resolve := fun resolver moment name =>
    ((resolver.resolve matching (outcomes moment name) name).1.ips,
      (resolver.resolve matching (outcomes moment name) name).2)
  isFakeIP := DNSResolver.isFakeIP
  reverseFakeIP := DNSResolver.reverseFakeIP
  systemLookup := fun moment name => (outcomes moment name).system
  json := base.json
  precheck := base.precheck
  validate := base.validate
  outbounds := base.outbounds

structure Client where
  router : Router
  inbound : InboundRouter
  resolver : DNSResolver
  dialed : Option GoString

inductive ClientEvent where
  | resolve (moment : Nat) (name : GoString)
  | connect (metadata : ConnMetadata)
  /-- The process starts again with a configuration; its pool is fresh. -/
  | restart (config : ResolverConfig) (router : Router) (inbound : InboundRouter)

def Decision.address : Decision → Option GoString
  | dial _ _ address => some address
  | unresolved _ => none
  | noOutbound _ => none

def startClient (matching : Matching) (config : ResolverConfig) (router : Router)
    (inbound : InboundRouter) : Client :=
  ⟨router, inbound, newDNSResolver matching config, none⟩

section Process

variable (base : Environment R ρ) (matching : Matching) (outcomes : Nat → GoString → Outcomes)

def Client.step (client : Client) : ClientEvent → Option Client
  | .resolve moment name =>
    some { client with
      resolver := (client.resolver.resolve matching (outcomes moment name) name).2
      dialed := none }
  | .connect metadata =>
    let routed := client.inbound.routeConnection (realEnvironment base matching outcomes)
      ⟨client.router, client.resolver⟩ metadata
    some { client with resolver := routed.2.resolver, dialed := routed.1.address }
  | .restart config router inbound => some (startClient matching config router inbound)

def clientMachine : Machine Client ClientEvent := ⟨Client.step base matching outcomes⟩

end Process

/-! ## Fake addresses in texts -/

/-- Host and port of a destination; a text that does not split is a host. -/
def destinationParts (destination : GoString) : GoString × GoString :=
  (splitHostPort destination).getD (destination, [])

variable (resolver : DNSResolver)

/-- Whether the host of an address is a literal in the fake range. -/
def DNSResolver.fakeAddress (address : GoString) : Bool :=
  (parseIP (destinationParts address).1).any resolver.isFakeIP

/-- A name with a port, or alone when there is none. -/
def written (domain port : GoString) : GoString :=
  if port ≠ [] then joinHostPort domain port else domain

theorem isFakeIP_congr {left right : IP} (same : to4 left = to4 right) :
    resolver.isFakeIP left = resolver.isFakeIP right := by
  unfold DNSResolver.isFakeIP FakeIPPool.isFakeIP
  rw [same]

theorem isFakeIP_long {ip : IP} (long : to4 ip = none) : resolver.isFakeIP ip = false := by
  unfold DNSResolver.isFakeIP FakeIPPool.isFakeIP
  rw [long]
  cases resolver.fakeIPPool with
  | none | some pool => rfl

theorem isFakeIP_printed (ip : IP) :
    (parseIP (ipString ip)).any resolver.isFakeIP = resolver.isFakeIP ip := by
  cases short : to4 ip with
  | some four =>
    have mapped : to4 (v4InV6 ++ four) = to4 ip :=
      (to4_mapped (to4_length short)).trans short.symm
    rw [parseIP_ipString short, any_some, isFakeIP_congr resolver mapped]
  | none =>
    by_cases sixteen : ip.length = 16
    · rw [parseIP_ipString_long short sixteen, any_some]
    · rw [parseIP_ipString_other short sixteen, any_none, isFakeIP_long resolver short]

theorem destinationParts_port (destination : GoString) :
    Unmarked (destinationParts destination).2 := by
  rw [destinationParts]
  cases split : splitHostPort destination with
  | none => exact ⟨nofun, nofun, nofun⟩
  | some parts => exact (splitHostPort_some split).1

theorem fakeAddress_printed (ip : IP) (destination : GoString) :
    resolver.fakeAddress (joinHostPort (ipString ip) (destinationParts destination).2) =
      resolver.isFakeIP ip := by
  have split := splitHostPort_join (ipString_unbracketed ip) (destinationParts_port destination)
  have parts : (destinationParts (joinHostPort (ipString ip)
      (destinationParts destination).2)).1 = ipString ip := by
    rw [destinationParts, split]
    rfl
  rw [DNSResolver.fakeAddress, parts, isFakeIP_printed]

/-! ## Which connections dial a fake address -/

section Dialing

variable (base : Environment R ρ) (matching : Matching) (outcomes : Nat → GoString → Outcomes)

variable (client : Client)

/-- What the host of a destination resolves to, and the resolver afterwards. -/
def Client.target (metadata : ConnMetadata) : Option IP × DNSResolver :=
  resolveTarget (realEnvironment base matching outcomes) client.resolver metadata.moment
    (destinationParts metadata.destination).1

/-- The outbound chosen for a destination known under a name and perhaps an address. -/
def Client.chosen (metadata : ConnMetadata) (host : GoString) (ip : Option IP) : Option Outbound :=
  client.inbound.outboundFor (client.router.matchConnection base.tables.toUnicodeTables
    ⟨host, ip, if metadata.process = [] then metadata.contextProcess else metadata.process,
      metadata.protocol, (parseUint16 (destinationParts metadata.destination).2).getD 0,
      metadata.source⟩)

inductive DialsFake (client : Client) : ClientEvent → Prop where
  /-- The host resolves to an address of the range that belongs to no name, and it is a literal or
  goes out directly with a port. -/
  | lost {metadata : ConnMetadata} {ip : IP} {outbound : Outbound}
    (resolved : (client.target base matching outcomes metadata).1 = some ip)
    (fake : (client.target base matching outcomes metadata).2.isFakeIP ip = true)
    (nameless : (client.target base matching outcomes metadata).2.reverseFakeIP ip = none)
    (chosen : client.chosen base metadata (destinationParts metadata.destination).1 (some ip) =
      some outbound)
    (exposed : outbound.type = lit "direct" ∧ (destinationParts metadata.destination).2 ≠ [] ∨
      (parseIP (destinationParts metadata.destination).1).isSome) :
    DialsFake client (.connect metadata)
  /-- The host resolves to an address of the range, and what the pool gave the address to is
  itself written as an address of the range. -/
  | renamed {metadata : ConnMetadata} {ip : IP} {domain : GoString} {outbound : Outbound}
    (resolved : (client.target base matching outcomes metadata).1 = some ip)
    (fake : (client.target base matching outcomes metadata).2.isFakeIP ip = true)
    (named : (client.target base matching outcomes metadata).2.reverseFakeIP ip = some domain)
    (chosen : client.chosen base metadata domain none = some outbound)
    (text : (client.target base matching outcomes metadata).2.fakeAddress
      (written domain (destinationParts metadata.destination).2) = true) :
    DialsFake client (.connect metadata)

/-- The last step did not dial a fake address. -/
def Client.Sound : Prop :=
  ∀ address, client.dialed = some address → client.resolver.fakeAddress address = false

variable {base matching outcomes}

def Client.routed (base : Environment R ρ) (matching : Matching)
    (outcomes : Nat → GoString → Outcomes) (client : Client) (metadata : ConnMetadata) :=
  client.inbound.routeConnection (realEnvironment base matching outcomes)
    ⟨client.router, client.resolver⟩ metadata

theorem routed_resolver (client : Client) (metadata : ConnMetadata) :
    (client.routed base matching outcomes metadata).2.resolver =
      (client.target base matching outcomes metadata).2 := by
  unfold Client.routed InboundRouter.routeConnection Client.target destinationParts
  dsimp only
  split
  · rfl
  split
  · rfl
  · split
    · split <;> rfl
    · rfl

variable {client : Client} {metadata : ConnMetadata} {ip : IP} {after : DNSResolver}

theorem routed_unresolved
    (resolved : client.target base matching outcomes metadata = (none, after)) :
    (client.routed base matching outcomes metadata).1.address = none := by
  unfold Client.target destinationParts at resolved
  unfold Client.routed InboundRouter.routeConnection
  dsimp only
  rw [resolved]
  rfl

section Resolved

variable (resolved : client.target base matching outcomes metadata = (some ip, after))

include resolved

theorem routed_named {domain : GoString} (fake : after.isFakeIP ip = true)
    (named : after.reverseFakeIP ip = some domain) :
    (client.routed base matching outcomes metadata).1.address =
      (client.chosen base metadata domain none).map fun _ =>
        written domain (destinationParts metadata.destination).2 := by
  unfold Client.target destinationParts at resolved
  unfold Client.routed InboundRouter.routeConnection Client.chosen destinationParts
  dsimp only
  rw [resolved]
  dsimp only
  rw [show (realEnvironment base matching outcomes).isFakeIP _ ip = true from fake,
    show (realEnvironment base matching outcomes).reverseFakeIP _ ip = some domain from named]
  have tables : (realEnvironment base matching outcomes).tables = base.tables := rfl
  simp only [getD_some, isSome_some, if_true, tables]
  cases client.inbound.outboundFor _ with
  | none | some outbound => rfl

theorem routed_plain (unnamed : after.isFakeIP ip = true → after.reverseFakeIP ip = none) :
    (client.routed base matching outcomes metadata).1.address =
      (client.chosen base metadata (destinationParts metadata.destination).1 (some ip)).map
        fun outbound =>
          if outbound.type = lit "direct" ∧ (destinationParts metadata.destination).2 ≠ [] then
            joinHostPort (ipString ip) (destinationParts metadata.destination).2
          else metadata.destination := by
  have name : (if (realEnvironment base matching outcomes).isFakeIP after ip = true then
      (realEnvironment base matching outcomes).reverseFakeIP after ip else none) = none := by
    split
    · exact unnamed ‹_›
    · rfl
  unfold Client.target destinationParts at resolved
  unfold Client.routed InboundRouter.routeConnection Client.chosen destinationParts
  dsimp only
  rw [resolved]
  dsimp only
  rw [name]
  have tables : (realEnvironment base matching outcomes).tables = base.tables := rfl
  simp only [getD_none, isSome_none, Bool.false_eq_true, if_false, tables]
  cases client.inbound.outboundFor _ with
  | none => rfl
  | some outbound =>
    rw [map_some]
    dsimp only
    split <;> rfl

theorem fakeAddress_destination : after.fakeAddress metadata.destination =
    ((parseIP (destinationParts metadata.destination).1).isSome && after.isFakeIP ip) := by
  rw [DNSResolver.fakeAddress]
  cases literal : parseIP (destinationParts metadata.destination).1 with
  | none => rfl
  | some address =>
    rw [Client.target, resolveTarget, literal] at resolved
    rw [any_some, isSome_some, Bool.true_and, Option.some.inj (Prod.mk.inj resolved).1]

theorem fakeAddress_plain (outbound : Outbound) :
    after.fakeAddress
        (if outbound.type = lit "direct" ∧ (destinationParts metadata.destination).2 ≠ [] then
          joinHostPort (ipString ip) (destinationParts metadata.destination).2
        else metadata.destination) = true ↔
      after.isFakeIP ip = true ∧
        (outbound.type = lit "direct" ∧ (destinationParts metadata.destination).2 ≠ [] ∨
          (parseIP (destinationParts metadata.destination).1).isSome) := by
  split
  · rename_i direct
    rw [fakeAddress_printed]
    exact ⟨fun fake => ⟨fake, .inl direct⟩, And.left⟩
  · rename_i indirect
    rw [fakeAddress_destination resolved, Bool.and_eq_true, and_comm, or_iff_right indirect]

/-- The connection dials a fake address. -/
def Client.Exposed (base : Environment R ρ) (matching : Matching)
    (outcomes : Nat → GoString → Outcomes) (client : Client) (metadata : ConnMetadata) : Prop :=
  ∃ address, (client.routed base matching outcomes metadata).1.address = some address ∧
    (client.target base matching outcomes metadata).2.fakeAddress address = true

theorem exposed_plain_iff (unnamed : after.isFakeIP ip = true → after.reverseFakeIP ip = none) :
    client.Exposed base matching outcomes metadata ↔
      DialsFake base matching outcomes client (.connect metadata) := by
  rw [Client.Exposed, routed_plain resolved unnamed]
  constructor
  · rintro ⟨address, dialed, text⟩
    have ⟨outbound, chosen, same⟩ := map_eq_some_iff.mp dialed
    rw [resolved, ← same] at text
    have ⟨fake, exposed⟩ := (fakeAddress_plain resolved outbound).mp text
    exact .lost (resolved ▸ rfl) (resolved ▸ fake) (resolved ▸ unnamed fake) chosen exposed
  · intro dials
    cases dials with
    | lost found fake _ chosen exposed =>
      rw [resolved] at found fake
      cases found
      rw [resolved]
      exact ⟨_, map_eq_some_iff.mpr ⟨_, chosen, rfl⟩,
        (fakeAddress_plain resolved _).mpr ⟨fake, exposed⟩⟩
    | renamed found fake named =>
      rw [resolved] at found fake named
      cases found
      exact absurd ((unnamed fake).symm.trans named) nofun

theorem exposed_named_iff {domain : GoString} (fake : after.isFakeIP ip = true)
    (named : after.reverseFakeIP ip = some domain) :
    client.Exposed base matching outcomes metadata ↔
      DialsFake base matching outcomes client (.connect metadata) := by
  rw [Client.Exposed, routed_named resolved fake named]
  constructor
  · rintro ⟨address, dialed, text⟩
    have ⟨outbound, chosen, same⟩ := map_eq_some_iff.mp dialed
    subst same
    exact .renamed (congrArg Prod.fst resolved) (resolved ▸ fake) (resolved ▸ named) chosen text
  · intro dials
    cases dials with
    | lost found _ nameless =>
      rw [resolved] at found nameless
      cases found
      exact absurd (named.symm.trans nameless) nofun
    | renamed found _ kept chosen text =>
      rw [resolved] at found kept
      cases found
      cases named.symm.trans kept
      exact ⟨_, map_eq_some_iff.mpr ⟨_, chosen, rfl⟩, text⟩

end Resolved

theorem exposed_iff (client : Client) (metadata : ConnMetadata) :
    client.Exposed base matching outcomes metadata ↔
      DialsFake base matching outcomes client (.connect metadata) := by
  cases resolved : client.target base matching outcomes metadata with | mk found after
  cases found with
  | none =>
    rw [Client.Exposed, routed_unresolved resolved]
    refine iff_of_false nofun fun dials => ?_
    cases dials with
    | lost found | renamed found => exact absurd (resolved ▸ found) nofun
  | some ip =>
    cases named : after.reverseFakeIP ip with
    | none => exact exposed_plain_iff resolved fun _ => named
    | some domain =>
      by_cases fake : after.isFakeIP ip = true
      · exact exposed_named_iff resolved fake named
      · exact exposed_plain_iff resolved fun real => absurd real fake

theorem step_sound_iff {next : Client} {event : ClientEvent}
    (stepped : (clientMachine base matching outcomes).step client event = some next) :
    next.Sound ↔ ¬DialsFake base matching outcomes client event := by
  cases event with
  | resolve moment name | restart config router inbound =>
    cases stepped
    exact iff_of_true nofun nofun
  | connect metadata =>
    cases stepped
    rw [← exposed_iff, Client.Exposed, ← routed_resolver]
    constructor
    · rintro sound ⟨address, dialed, fake⟩
      exact absurd ((sound address dialed).symm.trans fake) nofun
    · intro never address dialed
      cases fake :
        (client.routed base matching outcomes metadata).2.resolver.fakeAddress address with
      | false => exact fake
      | true => exact absurd ⟨address, dialed, fake⟩ never

end Dialing

/-- Along every run no fake address is dialed if and only if no connection's host resolves to an
address of the range that belongs to no name and is a literal or goes out directly with a port, or
to one whose name is itself written as an address of the range. -/
theorem fake_never_dialed_iff (base : Environment R ρ) (matching : Matching)
    (outcomes : Nat → GoString → Outcomes) (config : ResolverConfig) (router : Router)
    (inbound : InboundRouter) (events : List ClientEvent) :
    (clientMachine base matching outcomes).Always Client.Sound
        (startClient matching config router inbound) events ↔
      (clientMachine base matching outcomes).Never (DialsFake base matching outcomes)
        (startClient matching config router inbound) events :=
  Machine.always_iff_never_of (fun _ => True)
    (fun _ _ stepped allowed => ⟨trivial, (step_sound_iff stepped).mpr allowed⟩)
    (fun _ _ stepped dials sound => (step_sound_iff stepped).mp sound dials) events trivial nofun

def fakeConfig : ResolverConfig := { guardedConfig [] with mode := lit "fake-ip" }

def directRouter : Router := newRouter bytewiseTables ⟨[], [], actionDirect⟩ none none

def directInbound : InboundRouter where
  built := 0
  outbounds := fun tag => if tag = lit "direct" then some ⟨lit "direct", lit "direct"⟩ else none
  defaultOut := none

def connectionFor (destination : GoString) : ClientEvent :=
  .connect ⟨destination, lit "tcp", [], [], lit "socks5", none, 0⟩

/-- The fake address of a name is dialed as that name before a restart, and as it is afterwards. -/
theorem restarted_process_dials_fake :
    ((clientMachine plainEnvironment plainMatching fun _ _ => remoteOutcomes .failed).run
        (startClient plainMatching fakeConfig directRouter directInbound)
        [.resolve 0 (lit "example.com"), connectionFor (lit "198.18.0.1:443")]).bind
          (·.dialed) = some (lit "example.com:443") ∧
      ((clientMachine plainEnvironment plainMatching fun _ _ => remoteOutcomes .failed).run
        (startClient plainMatching fakeConfig directRouter directInbound)
        [.resolve 0 (lit "example.com"), .restart fakeConfig directRouter directInbound,
          connectionFor (lit "198.18.0.1:443")]).bind
          (·.dialed) = some (lit "198.18.0.1:443") ∧
      (newDNSResolver plainMatching fakeConfig).fakeAddress (lit "198.18.0.1:443") = true := by
  decide +kernel

end Shuttle.Engine
