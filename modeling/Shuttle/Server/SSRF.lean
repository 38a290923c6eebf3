import Shuttle.Go.Net

/-!
# Blocked targets

`server/ssrf.go` refuses targets in internal and private ranges. The check looks the host up and
refuses it when one of the answers is blocked; a dial that follows looks the host up again. An
answer with a zone is skipped by the check, because `net.ParseIP` does not accept it, and a
literal address is its own answer, so a zoned literal passes whatever its address is.
-/

namespace Shuttle.Server

open Shuttle.Go

/-- The ranges that are not proxied to. -/
def blockedCIDRs : List IPNet :=
  [ lit "127.0.0.0/8",
    lit "10.0.0.0/8",
    lit "172.16.0.0/12",
    lit "192.168.0.0/16",
    lit "169.254.0.0/16",
    lit "0.0.0.0/8",
    lit "::1/128",
    lit "fe80::/10",
    lit "fc00::/7",
    lit "::/128" ].filterMap parseCIDR

/-- Every range of the list parses. -/
example : blockedCIDRs.length = 10 := by decide +kernel

def isBlockedIP (ip : IP) : Bool := blockedCIDRs.any fun range => range.contains ip

def isBlockedAnswer (text : GoString) : Bool :=
  match parseIP text with
  | none => false
  | some ip => isBlockedIP ip

def hostOf (target : GoString) : GoString :=
  match splitHostPort target with
  | none => target
  | some (host, _) => host

/-- Whether a target points to an internal or private network, by a look-up of its host. -/
def isBlockedTarget (network : Network) (query : Nat) (target : GoString) : Bool :=
  let host := hostOf target
  match network.lookupHost query host with
  | none =>
    match parseIP host with
    | some ip => isBlockedIP ip
    | none => true
  | some answers => answers.any isBlockedAnswer

/-- How a dial, with the look-up number `dial`, reaches a blocked address after a check, with the
look-up number `check`, has passed. -/
inductive Exposed (network : Network) (check dial : Nat) (transport : Transport)
    (host : GoString) : Prop where
  /-- The host is a blocked address with a zone, and the dial uses it. -/
  | zoned (addr : Addr) (literal : parseAddr host = some addr) (zone : addr.zone ≠ [])
    (used : addr ∈ network.attempts transport [addr]) (blocked : isBlockedIP addr.as16 = true)
  /-- The host is a name, no answer of the check's look-up is blocked, and the dial uses a blocked
  address of its own look-up. -/
  | rebound (named : parseAddr host = none) (known : host ≠ []) (shown listed : List GoString)
    (checked : network.answer check host = some shown)
    (clean : shown.any isBlockedAnswer = false)
    (dialed : network.answer dial host = some listed) (addr : Addr)
    (used : addr ∈ network.attempts transport (listed.filterMap parseAddr))
    (blocked : isBlockedIP addr.as16 = true)

variable {network : Network} {check dial : Nat} {transport : Transport}
variable {target host port : GoString}

variable {addr : Addr}

theorem isBlockedAnswer_unzoned {text : GoString}
    (literal : parseAddr text = some addr) (zone : addr.zone = []) :
    isBlockedAnswer text = isBlockedIP addr.as16 := by
  have parsed : parseIP text = some addr.as16 := by
    rw [parseIP, literal]
    exact if_pos zone
  rw [isBlockedAnswer, parsed]

theorem isBlockedAnswer_zoned {text : GoString}
    (literal : parseAddr text = some addr) (zone : addr.zone ≠ []) :
    isBlockedAnswer text = false := by
  have refused : parseIP text = none := by
    rw [parseIP, literal]
    exact if_neg zone
  rw [isBlockedAnswer, refused]

theorem isBlockedTarget_literal (split : hostOf target = host)
    (literal : parseAddr host = some addr) :
    isBlockedTarget network check target = isBlockedAnswer host := by
  rw [isBlockedTarget, split, network.lookupHost_literal check literal]
  simp

theorem isBlockedTarget_name (split : hostOf target = host) (named : parseAddr host = none)
    (known : host ≠ []) :
    isBlockedTarget network check target = false ↔
      ∃ shown, network.answer check host = some shown ∧ shown.any isBlockedAnswer = false := by
  have unparsed : parseIP host = none := by rw [parseIP, named]
  rw [isBlockedTarget, split, network.lookupHost_name check named known]
  cases network.answer check host with
  | none => simp [unparsed]
  | some shown => simp

theorem isBlockedTarget_empty (split : hostOf target = []) :
    isBlockedTarget network check target = true := by
  rw [isBlockedTarget, split]
  rfl

theorem ne_nil_of_passed (passed : isBlockedTarget network check target = false) : target ≠ [] := by
  intro empty
  subst empty
  cases passed

theorem literal_blocked_iff (literal : parseAddr host = some addr) :
    (isBlockedAnswer host = false ∧
        ∃ used ∈ network.attempts transport [addr], isBlockedIP used.as16 = true) ↔
      Exposed network check dial transport host := by
  constructor
  · rintro ⟨passed, used, member, blocked⟩
    have same : used = addr := List.mem_singleton.mp (network.attempts_mem _ _ _ member)
    subst same
    by_cases zone : used.zone = []
    · rw [isBlockedAnswer_unzoned literal zone, blocked] at passed
      cases passed
    · exact .zoned used literal zone member blocked
  · intro exposed
    cases exposed with
    | zoned other literal' zone used blocked =>
      have same : addr = other := Option.some.inj (literal.symm.trans literal')
      subst same
      exact ⟨isBlockedAnswer_zoned literal zone, addr, used, blocked⟩
    | rebound named =>
      rw [literal] at named
      cases named

theorem name_blocked_iff (named : parseAddr host = none) (known : host ≠ []) :
    ((∃ shown, network.answer check host = some shown ∧ shown.any isBlockedAnswer = false) ∧
        ∃ used ∈ network.attempts transport
          (((network.answer dial host).getD []).filterMap parseAddr),
          isBlockedIP used.as16 = true) ↔
      Exposed network check dial transport host := by
  constructor
  · rintro ⟨⟨shown, checked, clean⟩, used, member, blocked⟩
    cases dialed : network.answer dial host with
    | none =>
      rw [dialed] at member
      have none := network.attempts_mem _ _ _ member
      cases none
    | some listed =>
      rw [dialed] at member
      exact .rebound named known shown listed checked clean dialed used member blocked
  · intro exposed
    cases exposed with
    | zoned addr literal =>
      rw [named] at literal
      cases literal
    | rebound _ _ shown listed checked clean dialed used member blocked =>
      refine ⟨⟨shown, checked, clean⟩, used, ?_, blocked⟩
      rw [dialed]
      exact member

theorem not_exposed_empty : ¬Exposed network check dial transport [] := by
  intro exposed
  cases exposed with
  | zoned addr literal => exact Network.ne_nil_of_literal literal rfl
  | rebound named known => exact known rfl

theorem split_blocked_iff (split : splitHostPort target = some (host, port))
    (service : (network.lookupPort transport port).isSome) :
    (isBlockedTarget network check target = false ∧
        ∃ addr ∈ network.dial dial transport target, isBlockedIP addr.as16 = true) ↔
      Exposed network check dial transport host := by
  have hosted : hostOf target = host := by rw [hostOf, split]
  by_cases known : host = []
  · subst known
    rw [isBlockedTarget_empty hosted]
    constructor
    · rintro ⟨passed, _⟩
      cases passed
    · intro exposed
      exact absurd exposed not_exposed_empty
  · have resolved := network.addrList_split dial split service known
    cases parsed : parseAddr host with
    | some addr =>
      have single : network.addrList dial transport target = [addr] := by
        rw [resolved, network.lookupHost_literal dial parsed]
        simp [parsed]
      rw [isBlockedTarget_literal hosted parsed, Network.dial, single]
      exact literal_blocked_iff parsed
    | none =>
      rw [isBlockedTarget_name hosted parsed known, Network.dial, resolved,
        network.lookupHost_name dial parsed known]
      exact name_blocked_iff parsed known

theorem dial_blocked_iff :
    (isBlockedTarget network check target = false ∧
        ∃ addr ∈ network.dial dial transport target, isBlockedIP addr.as16 = true) ↔
      ∃ host port, splitHostPort target = some (host, port) ∧
        (network.lookupPort transport port).isSome ∧
        Exposed network check dial transport host := by
  constructor
  · intro reached
    have ⟨passed, addr, used, blocked⟩ := reached
    cases split : splitHostPort target with
    | none =>
      rw [Network.dial_eq_nil (network.addrList_unsplit dial transport (ne_nil_of_passed passed)
        split)] at used
      cases used
    | some pair =>
      have ⟨host, port⟩ := pair
      cases service : network.lookupPort transport port with
      | none =>
        rw [Network.dial_eq_nil (network.addrList_unknown_port dial split service)] at used
        cases used
      | some number =>
        have known : (network.lookupPort transport port).isSome := by rw [service]; rfl
        exact ⟨host, port, rfl, known, (split_blocked_iff split known).mp reached⟩
  · rintro ⟨host, port, split, service, exposed⟩
    exact (split_blocked_iff split service).mpr exposed

end Shuttle.Server
