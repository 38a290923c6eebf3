import Shuttle.Server.SSRF
import Shuttle.Go.IPv6Text

/-!
# The safe HTTP client

`NewSafeHTTPClient` dials only addresses that it has checked: a literal as it is written, and the
answers to its own look-up one by one, as literals, so that no second look-up decides. Redirects
are counted and checked by a look-up of their own.
-/

namespace Shuttle.Server

open Shuttle.Go List

inductive SafeError where
  /-- "safehttp: split host port: %w". -/
  | splitHostPort
  /-- "safehttp: target address is blocked", with what was refused. -/
  | blockedTarget
  /-- "safehttp: resolve %q: %w". -/
  | resolve (host : GoString)
  /-- "safehttp: dial all allowed addresses failed: %w", or the error of the one dial. -/
  | dial
  /-- "safehttp: too many redirects (max %d)". -/
  | tooManyRedirects (max : Int)
  /-- "safehttp: redirect target has no hostname". -/
  | noHostname

/-- An address of four or sixteen bytes, as a look-up returns it. -/
abbrev ResolvedIP := { ip : IP // ip.length = 4 ∨ ip.length = 16 }

/-- The surroundings of a client: the network, and by the number of the look-up or dial what
`lookupIPAddr` answers and which dials connect. -/
structure Surroundings where
  network : Network
  lookupIPAddr : Nat → GoString → Option (List ResolvedIP)
  connects : Nat → GoString → Bool

/-- The limit that a zero leaves unset. -/
def redirectLimit (maxRedirects : Int) : Int := if maxRedirects = 0 then 5 else maxRedirects

structure SafeHTTPClientOptions where
  allowPrivateNetworks : Bool
  maxRedirects : Int

def newSafeHTTPClient (opts : SafeHTTPClientOptions) : SafeHTTPClientOptions :=
  { opts with maxRedirects := redirectLimit opts.maxRedirects }

/-- What `http.Client` takes from the URL of a request. -/
structure SafeRequest where
  hostname : GoString
  addr : GoString

namespace Surroundings

variable (world : Surroundings) (number : Nat)

/-- The loop over the allowed addresses, with the addresses that it opens connections to. -/
def dialEach (port : GoString) : List ResolvedIP → List Addr × Except SafeError Unit
  | [] => ([], .error .dial)
  | ip :: rest =>
    let target := joinHostPort (ipString ip) port
    let opened := world.network.dial number .tcp target
    if world.connects number target then (opened, .ok ())
    else (opened ++ (dialEach port rest).1, (dialEach port rest).2)

def safeDialContext (allowPrivate : Bool) (addr : GoString) : List Addr × Except SafeError Unit :=
  match splitHostPort addr with
  | none => ([], .error .splitHostPort)
  | some (host, port) =>
    match parseIP host with
    | some ip =>
      if !allowPrivate && isBlockedIP ip then ([], .error .blockedTarget)
      else
        (world.network.dial number .tcp addr,
          if world.connects number addr then .ok () else .error .dial)
    | none =>
      match world.lookupIPAddr number host with
      | none => ([], .error (.resolve host))
      | some ips =>
        match ips.filter fun ip => allowPrivate || !isBlockedIP ip.val with
        | [] => ([], .error .blockedTarget)
        | allowed => world.dialEach number port allowed

def safeCheckRedirect (allowPrivate : Bool) (maxRedirects : Int) (hostname : GoString)
    (via : Nat) : Except SafeError Unit :=
  if redirectLimit maxRedirects ≤ via then .error (.tooManyRedirects (redirectLimit maxRedirects))
  else if allowPrivate then .ok ()
  else if hostname = [] then .error .noHostname
  else
    match parseIP hostname with
    | some ip => if isBlockedIP ip then .error .blockedTarget else .ok ()
    | none =>
      match world.lookupIPAddr number hostname with
      | none => .error .blockedTarget
      | some ips => if ips.any fun ip => isBlockedIP ip then .error .blockedTarget else .ok ()

/-- A request behind others and the redirects that servers answer with: the addresses that
connections are opened to, and how many redirects are followed. -/
def follow (client : SafeHTTPClientOptions) :
    (via : Nat) → SafeRequest → List SafeRequest → List Addr × Nat
  | via, request, [] =>
    ((world.safeDialContext (2 * via) client.allowPrivateNetworks request.addr).1, 0)
  | via, request, next :: later =>
    let opened := (world.safeDialContext (2 * via) client.allowPrivateNetworks request.addr).1
    match world.safeCheckRedirect (2 * via + 1) client.allowPrivateNetworks client.maxRedirects
        next.hostname (via + 1) with
    | .error _ => (opened, 0)
    | .ok () =>
      let followed := follow client (via + 1) next later
      (opened ++ followed.1, followed.2 + 1)

variable {world number}

theorem dial_literal {target host port : GoString} {ip : IP}
    (split : splitHostPort target = some (host, port)) (literal : parseIP host = some ip)
    {addr : Addr} (used : addr ∈ world.network.dial number .tcp target) : addr.as16 = ip := by
  have listed := world.network.attempts_mem _ _ _ used
  cases parsed : parseAddr host with
  | none => simp [parseIP, parsed] at literal
  | some own =>
    cases service : world.network.lookupPort .tcp port with
    | none => simp [world.network.addrList_unknown_port number split service] at listed
    | some _ =>
      have known := Network.ne_nil_of_literal parsed
      rw [world.network.addrList_split number split (service ▸ rfl) known,
        world.network.lookupHost_literal number parsed] at listed
      simp [parsed] at listed
      simp [parseIP, parsed] at literal
      exact listed ▸ literal.2

/-- A printed address is the same address for the check. -/
theorem parseIP_checked (ip : ResolvedIP) :
    ∃ read, parseIP (ipString ip) = some read ∧ isBlockedIP read = isBlockedIP ip := by
  cases short : to4 ip with
  | some four =>
    refine ⟨_, parseIP_ipString short, ?_⟩
    simp only [isBlockedIP, IPNet.contains, to4_mapped (to4_length short), short, Option.getD_some]
  | none =>
    rcases ip.property with four | sixteen
    · rw [to4_four four] at short
      cases short
    · exact ⟨ip, parseIP_ipString_long short sixteen, rfl⟩

theorem dialEach_unblocked {port : GoString} (plain : Unmarked port) {ips : List ResolvedIP}
    (clean : ∀ ip ∈ ips, isBlockedIP ip = false) :
    ∀ addr ∈ (world.dialEach number port ips).1, isBlockedIP addr.as16 = false := by
  induction ips with
  | nil => nofun
  | cons ip rest ih =>
    have ⟨own, others⟩ := forall_mem_cons.mp clean
    have ⟨read, parsed, same⟩ := parseIP_checked ip
    have opened : ∀ addr ∈ world.network.dial number .tcp (joinHostPort (ipString ip) port),
        isBlockedIP addr.as16 = false := by
      intro addr used
      rw [dial_literal (splitHostPort_join (ipString_unbracketed ip) plain) parsed used, same, own]
    rw [dialEach]
    split
    · exact opened
    · exact forall_mem_append.mpr ⟨opened, ih others⟩

theorem safeDialContext_unblocked (target : GoString) :
    ∀ addr ∈ (world.safeDialContext number false target).1, isBlockedIP addr.as16 = false := by
  unfold safeDialContext
  split
  · nofun
  rename_i host port found
  split
  · rename_i ip literal
    split
    · nofun
    · rename_i clean
      intro addr used
      rw [dial_literal found literal used]
      simpa using clean
  · split
    · nofun
    split
    · nofun
    · refine dialEach_unblocked (splitHostPort_some found).1 fun ip listed => ?_
      simpa using (mem_filter.mp listed).2

theorem follow_bounded {client : SafeHTTPClientOptions}
    (strict : client.allowPrivateNetworks = false) (via : Nat) (request : SafeRequest)
    (redirects : List SafeRequest) :
    (∀ addr ∈ (world.follow client via request redirects).1, isBlockedIP addr.as16 = false) ∧
      via + (world.follow client via request redirects).2 ≤
        max via (redirectLimit client.maxRedirects).toNat := by
  induction redirects generalizing via request with
  | nil =>
    rw [follow, strict]
    exact ⟨safeDialContext_unblocked _, Nat.le_max_left ..⟩
  | cons next later ih =>
    rw [follow, strict]
    dsimp only
    split
    · exact ⟨safeDialContext_unblocked _, Nat.le_max_left ..⟩
    rename_i passed
    have ⟨clean, few⟩ := ih (via + 1) next
    have below : ¬redirectLimit client.maxRedirects ≤ (via + 1 : Nat) := by
      intro reached
      rw [safeCheckRedirect, if_pos reached] at passed
      cases passed
    refine ⟨forall_mem_append.mpr ⟨safeDialContext_unblocked _, clean⟩, ?_⟩
    show via + ((world.follow client (via + 1) next later).2 + 1) ≤ _
    omega

/-- Without private networks only addresses outside of the blocked ranges are connected to, and at
most the given number of redirects is followed. -/
theorem safe_client_bounded (maxRedirects : Int) (request : SafeRequest)
    (redirects : List SafeRequest) :
    (∀ addr ∈ (world.follow (newSafeHTTPClient ⟨false, maxRedirects⟩) 0 request redirects).1,
        ∀ range ∈ blockedCIDRs, range.contains addr.as16 = false) ∧
      (world.follow (newSafeHTTPClient ⟨false, maxRedirects⟩) 0 request redirects).2 ≤
        (if maxRedirects = 0 then 5 else maxRedirects).toNat := by
  have ⟨clean, few⟩ := @follow_bounded world (newSafeHTTPClient ⟨false, maxRedirects⟩) rfl 0
    request redirects
  refine ⟨fun addr dialed range blocked => ?_, ?_⟩
  · simpa using List.any_eq_false.mp (clean addr dialed) range blocked
  simp only [newSafeHTTPClient, redirectLimit] at few ⊢
  omega

end Surroundings

end Shuttle.Server
