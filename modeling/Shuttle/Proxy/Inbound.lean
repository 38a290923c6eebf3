import Shuttle.Proxy.HTTP
import Shuttle.Proxy.SOCKS5

/-!
# What the inbounds ask the dialer for, and for whom

Two questions about both inbounds. A target handed to the dialer is split again by the router,
so it has to split into the host and the port the client asked for. And a listener with a
configured username should dial only for clients that presented the credentials.
-/

namespace Shuttle.Proxy

open Shuttle.Go Shuttle.Lib List

/-! ## Targets -/

inductive HostText where
  /-- A domain name or an IPv4 address. -/
  | name (text : { text : GoString // Unmarked text })
  /-- An IPv6 address, which stands in brackets. -/
  | ipv6 (text : { text : GoString // colon ∈ text ∧ 0x5b ∉ text ∧ 0x5d ∉ text })

def HostText.written : HostText → GoString
  | name text => text.val
  | ipv6 text => 0x5b :: (text.val ++ [0x5d])

def HostText.host : HostText → GoString
  | name text => text.val
  | ipv6 text => text.val

inductive InboundRequest where
  /-- A SOCKS5 request for a connection, whose domain names have no colon. -/
  | socks5 (address : Address) (colonless : ∀ name, address = .domain name → colon ∉ name.val)
    (reserved : UInt8) (port : UInt16)
  | http (method : GoString) (host : HostText)
    (port : Option { text : GoString // text ≠ [] ∧ Unmarked text })

namespace InboundRequest

def hostField (host : HostText) (port : Option { text : GoString // text ≠ [] ∧ Unmarked text }) :
    GoString :=
  match port with
  | none => host.written
  | some port => host.written ++ colon :: port.val

variable (request : InboundRequest)

/-- The target the dialer is called with; a SOCKS5 client may send anything behind its request. -/
def DialsTarget (target : GoString) : Prop :=
  match request with
  | socks5 address _ reserved port =>
    ∀ (conn : Conn) (rest : List UInt8),
      conn.input = address.connectRequest reserved port ++ rest →
        handleRequest.run conn = .ok target { conn with input := rest }
  | http method host port =>
    ∀ dialer header reads,
      (serveHTTP dialer ⟨method, hostField host port, header⟩ reads).target = target

/-- Host and port are those the client asked for, addresses up to their textual form. -/
def AsksFor (host port : GoString) : Prop :=
  match request with
  | socks5 (.ipv4 bytes) _ _ number =>
    parseIP host = to16 bytes.val ∧ port = formatDecimal number.toNat
  | socks5 (.domain name) _ _ number => host = name.val ∧ port = formatDecimal number.toNat
  | socks5 (.ipv6 bytes) _ _ number =>
    parseIP host = to16 bytes.val ∧ port = formatDecimal number.toNat
  | http method asked number =>
    host = asked.host ∧
      port = match number with
        | some text => text.val
        | none => if method = lit "CONNECT" then lit "443" else lit "80"

/-- The dialed target splits into the host and the port the client asked for. -/
def Faithful : Prop :=
  ∃ target host port, request.DialsTarget target ∧ splitHostPort target = some (host, port) ∧
    request.AsksFor host port

/-- What a client has to avoid: SOCKS5 addresses of sixteen bytes that are no mapped IPv4 address,
names with brackets, and bracketed hosts without a port. -/
def Splittable : InboundRequest → Prop
  | socks5 (.ipv4 _) _ _ _ => True
  | socks5 (.domain name) _ _ _ => 0x5b ∉ name.val ∧ 0x5d ∉ name.val
  | socks5 (.ipv6 bytes) _ _ _ => (to4 bytes.val).isSome
  | http _ (.name _) _ => True
  | http _ (.ipv6 _) port => port.isSome

theorem dialsTarget_socks5 (address : Address)
    (colonless : ∀ name, address = .domain name → colon ∉ name.val) (reserved : UInt8)
    (port : UInt16) {target : GoString} :
    (socks5 address colonless reserved port).DialsTarget target ↔
      target = address.host ++ colon :: formatDecimal port.toNat := by
  constructor
  · intro dials
    have ran := dials ⟨address.connectRequest reserved port, [], fun _ => false, true⟩ []
      (append_nil _).symm
    rw [handleRequest_connect address reserved port (append_nil _).symm] at ran
    cases ran
    rfl
  · rintro rfl conn rest starts
    exact handleRequest_connect address reserved port starts

theorem dialsTarget_http (method : GoString) (host : HostText)
    (port : Option { text : GoString // text ≠ [] ∧ Unmarked text }) {target : GoString} :
    (http method host port).DialsTarget target ↔
      target = dialTarget (hostField host port)
        (if method = lit "CONNECT" then lit "443" else lit "80") := by
  have served (dialer : GoString → Option Remote) (request : Request)
      (reads : List (List UInt8)) : (serveHTTP dialer request reads).target =
        dialTarget request.host
          (if request.method = lit "CONNECT" then lit "443" else lit "80") := by
    rw [serveHTTP]
    split
    · rw [handleConnect]
      cases dialer (dialTarget request.host (lit "443")) <;> rfl
    · rw [handleHTTP]
      cases dialer (dialTarget request.host (lit "80")) with
      | none => rfl
      | some remote =>
        dsimp only
        split <;> rfl
  constructor
  · intro dials
    rw [← dials (fun _ => none) [] [], served]
  · rintro rfl dialer header reads
    rw [served]

theorem splitHostPort_short {ip four : IP} (short : to4 ip = some four) (port : UInt16) :
    splitHostPort (ipString ip ++ colon :: formatDecimal port.toNat) =
      some (ipString ip, formatDecimal port.toNat) :=
  splitHostPort_plain (ipString_plain short) (formatDecimal_plain _)

theorem dialTarget_split {host : GoString} {pair : GoString × GoString}
    (split : splitHostPort host = some pair) {defaultPort : GoString} :
    dialTarget host defaultPort = host := by
  rw [dialTarget, split]

theorem dialTarget_unsplit {host : GoString} (unsplit : splitHostPort host = none)
    (defaultPort : GoString) : dialTarget host defaultPort = joinHostPort host defaultPort := by
  rw [dialTarget, unsplit]

theorem unsplit_bracketed {text : GoString} (unbracketed : 0x5b ∉ text ∧ 0x5d ∉ text)
    (colons : colon ∈ text) (defaultPort : GoString) :
    splitHostPort (dialTarget (0x5b :: (text ++ [0x5d])) defaultPort) = none := by
  have unsplit : splitHostPort (0x5b :: (text ++ [0x5d])) = none := by
    cases split : splitHostPort (0x5b :: (text ++ [0x5d])) with
    | none => rfl
    | some pair =>
      have inside := splitHostPort_opened split
      have ⟨_, hostPlain, _⟩ := splitHostPort_some split
      have close := indexByte_append_cons unbracketed.2 []
      rw [inside, indexByte_append_cons hostPlain.2] at close
      have behind := append_inj_right inside (Option.some.inj close).symm
      exact absurd (List.cons.inj behind).2 (cons_ne_nil _ _).symm
  have listed : colon ∈ 0x5b :: (text ++ [0x5d]) :=
    mem_cons_of_mem _ (mem_append_left _ colons)
  rw [dialTarget_unsplit unsplit, joinHostPort_colons listed]
  cases split :
      splitHostPort (0x5b :: (0x5b :: (text ++ [0x5d]) ++ 0x5d :: colon :: defaultPort)) with
  | none => rfl
  | some pair =>
    have inside := splitHostPort_opened split
    have ⟨_, hostPlain, _⟩ := splitHostPort_some split
    cases host : pair.1 with
    | nil =>
      rw [host] at inside
      exact absurd (List.cons.inj inside).1 (by decide)
    | cons first rest =>
      rw [host] at inside
      rw [host, ← (List.cons.inj inside).1] at hostPlain
      exact absurd mem_cons_self hostPlain.1

theorem socks5_faithful_iff (address : Address)
    (colonless : ∀ name, address = .domain name → colon ∉ name.val) (reserved : UInt8)
    (port : UInt16) :
    (socks5 address colonless reserved port).Faithful ↔
      (socks5 address colonless reserved port).Splittable := by
  have dials := @dialsTarget_socks5 address colonless reserved port
  cases address with
  | ipv4 bytes =>
    have short := to4_four bytes.property
    refine iff_of_true ⟨_, _, _, dials.mpr rfl, splitHostPort_short short port, ?_, rfl⟩ trivial
    rw [parseIP_ipString short, to16, if_pos bytes.property]
  | domain name =>
    constructor
    · rintro ⟨target, host, portText, _, split, asked, _⟩
      have ⟨_, unbracketed, _⟩ := splitHostPort_some split
      rw [asked] at unbracketed
      exact unbracketed
    · intro unbracketed
      exact ⟨_, _, _, dials.mpr rfl,
        splitHostPort_plain ⟨colonless name rfl, unbracketed⟩ (formatDecimal_plain _), rfl, rfl⟩
  | ipv6 bytes =>
    have sixteen := bytes.property
    cases short : to4 bytes.val with
    | some four =>
      have mapped := mapped_of_to4 short sixteen
      refine iff_of_true ⟨_, _, _, dials.mpr rfl, splitHostPort_short short port, ?_, rfl⟩ ?_
      · rw [parseIP_ipString short, to16, if_neg (by omega), if_pos sixteen, mapped]
      · rw [Splittable, short]
        rfl
    | none =>
      have ⟨colons, unbracketed, _⟩ := ipString_colons short sixteen
      apply iff_of_false
      · rintro ⟨target, host, portText, dialed, split, _⟩
        rw [dials.mp dialed] at split
        have unsplit := splitHostPort_colons colons unbracketed (formatDecimal_plain port.toNat).1
        rw [Address.host, unsplit] at split
        cases split
      · rw [Splittable, short]
        nofun

theorem http_faithful_iff (method : GoString) (host : HostText)
    (port : Option { text : GoString // text ≠ [] ∧ Unmarked text }) :
    (http method host port).Faithful ↔ (http method host port).Splittable := by
  have dials := @dialsTarget_http method host port
  have portPlain : Unmarked (if method = lit "CONNECT" then lit "443" else lit "80") := by
    split <;> decide +kernel
  cases host with
  | name text =>
    cases port with
    | none =>
      have colonless := text.property.1
      refine iff_of_true ⟨_, _, _, dials.mpr rfl, ?_, rfl, rfl⟩ trivial
      rw [hostField, HostText.written, dialTarget_unsplit (splitHostPort_colonless colonless),
        joinHostPort_colonless colonless]
      exact splitHostPort_plain text.property portPlain
    | some port =>
      have split := splitHostPort_plain text.property port.property.2
      refine iff_of_true ⟨_, _, _, dials.mpr rfl, ?_, rfl, rfl⟩ trivial
      rw [hostField, HostText.written, dialTarget_split split]
      exact split
  | ipv6 text =>
    cases port with
    | none =>
      refine iff_of_false ?_ nofun
      rintro ⟨target, host, portText, dialed, split, _⟩
      rw [dials.mp dialed, hostField, HostText.written,
        unsplit_bracketed text.property.2 text.property.1] at split
      cases split
    | some port =>
      have split := splitHostPort_bracketed text.property.2 port.property.2
      refine iff_of_true ⟨_, _, _, dials.mpr rfl, ?_, rfl, rfl⟩ rfl
      have written : HostText.written (.ipv6 text) ++ colon :: port.val =
          0x5b :: (text.val ++ 0x5d :: colon :: port.val) := by
        rw [HostText.written, cons_append, append_assoc, singleton_append]
      rw [hostField]
      rw [written, dialTarget_split split]
      exact split

/-- The dialed target splits into what the client asked for exactly for the splittable
requests. -/
theorem faithful_iff_splittable (request : InboundRequest) :
    request.Faithful ↔ request.Splittable := by
  cases request with
  | socks5 address colonless reserved port =>
    exact socks5_faithful_iff address colonless reserved port
  | http method host port => exact http_faithful_iff method host port

/-- A SOCKS5 client that asks for an IPv6 address, and an HTTP client that asks for one without a
port, make the inbounds dial targets that do not split. -/
theorem ipv6_targets_unsplit :
    (∀ target, (socks5 (.ipv6 ⟨List.replicate 15 0 ++ [1], rfl⟩) nofun 0 80).DialsTarget target ↔
        target = lit "::1:80") ∧
      splitHostPort (lit "::1:80") = none ∧
      ¬(socks5 (.ipv6 ⟨List.replicate 15 0 ++ [1], rfl⟩) nofun 0 80).Faithful ∧
      (∀ target, (http (lit "CONNECT") (.ipv6 ⟨lit "::1", by decide +kernel⟩) none).DialsTarget
        target ↔ target = lit "[[::1]]:443") ∧
      splitHostPort (lit "[[::1]]:443") = none ∧
      ¬(http (lit "CONNECT") (.ipv6 ⟨lit "::1", by decide +kernel⟩) none).Faithful := by
  have socks (target : GoString) :
      (socks5 (.ipv6 ⟨List.replicate 15 0 ++ [1], rfl⟩) nofun 0 80).DialsTarget target ↔
        target = lit "::1:80" := by
    have printed : ipString (List.replicate 15 0 ++ [1]) ++ colon :: formatDecimal 80 =
        lit "::1:80" := by decide +kernel
    rw [← printed]
    exact dialsTarget_socks5 _ _ _ _
  have http (target : GoString) :
      (http (lit "CONNECT") (.ipv6 ⟨lit "::1", by decide +kernel⟩) none).DialsTarget target ↔
        target = lit "[[::1]]:443" := by
    exact dialsTarget_http _ _ _
  have socksUnsplit : splitHostPort (lit "::1:80") = none := by decide +kernel
  have httpUnsplit : splitHostPort (lit "[[::1]]:443") = none := by decide +kernel
  refine ⟨socks, socksUnsplit, ?_, http, httpUnsplit, ?_⟩
  · rintro ⟨target, _, _, dialed, split, _⟩
    rw [(socks target).mp dialed] at split
    cases split
  · rintro ⟨target, _, _, dialed, split, _⟩
    rw [(http target).mp dialed] at split
    cases split

end InboundRequest

/-! ## Credentials -/

/-- The digit of a six-bit group, in the standard alphabet of `encoding/base64`. -/
def base64Digit (group : Nat) : UInt8 :=
  (lit "ABCDEFGHIJKLMNOPQRSTUVWXYZabcdefghijklmnopqrstuvwxyz0123456789+/").getD (group % 64) 0

def base64 : List UInt8 → GoString
  | a :: b :: c :: rest =>
    let word := ofBe [a, b, c]
    [base64Digit (word / 2 ^ 18), base64Digit (word / 2 ^ 12), base64Digit (word / 2 ^ 6),
      base64Digit word] ++ base64 rest
  | [a, b] =>
    let word := ofBe [a, b, 0]
    [base64Digit (word / 2 ^ 18), base64Digit (word / 2 ^ 12), base64Digit (word / 2 ^ 6), 0x3d]
  | [a] =>
    let word := ofBe [a, 0, 0]
    [base64Digit (word / 2 ^ 18), base64Digit (word / 2 ^ 12), 0x3d, 0x3d]
  | [] => []

/-- The header field with which an HTTP client presents credentials to a proxy. -/
def HTTPConfig.authorization (config : HTTPConfig) : GoString × GoString :=
  (lit "Proxy-Authorization",
    lit "Basic " ++ base64 (config.username ++ colon :: config.password))

inductive Inbound where
  | socks5 (config : SOCKS5Config)
  | http (config : HTTPConfig)

/-- What an inbound meets: the parser of requests, writes that fail, and what dials return. -/
structure Surroundings where
  reader : RequestReader
  fails : Nat → Bool
  bound : GoString → Option (Option TCPAddr)
  remote : GoString → Option Remote

namespace Inbound

def username : Inbound → GoString
  | socks5 config => config.username
  | http config => config.username

variable (inbound : Inbound)

variable (surroundings : Surroundings)

/-- The dialer is called, or a UDP association served, for a client's reads. -/
def Serves (reads : List (List UInt8)) : Prop :=
  match inbound with
  | socks5 config =>
    (config.handleConn surroundings.bound ⟨reads.flatten, [], surroundings.fails, false⟩).1 ≠
      .closed
  | http config => config.handleConn surroundings.reader surroundings.remote reads ≠ none

/-- The client's stream presents the configured username and password, in the way of the inbound's
protocol. -/
def Presented (stream : List UInt8) : Prop :=
  match inbound with
  | socks5 config => config.PresentedIn stream
  | http config => ∃ request size, surroundings.reader.parse stream = .request request size ∧
    config.authorization ∈ request.header

/-- The clients an inbound would have to turn away do not come: every HTTP request carries the
credentials. -/
def OnlyAuthorized (stream : List UInt8) : Prop :=
  match inbound with
  | socks5 _ => True
  | http config => ∀ request size, surroundings.reader.parse stream = .request request size →
    config.authorization ∈ request.header

/-- An inbound with a configured username serves only clients that presented the credentials
exactly when it is the SOCKS5 one or no other client comes. -/
theorem served_presented_iff_only_authorized (inbound : Inbound) (surroundings : Surroundings)
    (reads : List (List UInt8)) (locked : inbound.username ≠ []) :
    (inbound.Serves surroundings reads → inbound.Presented surroundings reads.flatten) ↔
      inbound.OnlyAuthorized surroundings reads.flatten := by
  cases inbound with
  | socks5 config =>
    refine iff_of_true ?_ trivial
    intro serves
    exact SOCKS5Config.handleConn_presented locked serves
  | http config =>
    constructor
    · intro guarded request size parsed
      have ⟨read, found, _⟩ := (readRequest_request reads []).mpr ⟨size, parsed⟩
      have serves : (http config).Serves surroundings reads := by
        unfold Serves HTTPConfig.handleConn
        rw [found]
        nofun
      have ⟨other, otherSize, again, presented⟩ := guarded serves
      rw [parsed] at again
      cases again
      exact presented
    · intro authorized serves
      unfold Serves HTTPConfig.handleConn at serves
      cases found : readRequest surroundings.reader [] reads with
      | none =>
        rw [found] at serves
        exact absurd rfl serves
      | some read =>
        have ⟨size, parsed⟩ := (readRequest_request reads []).mp ⟨read, found, rfl⟩
        exact ⟨read.request, size, parsed, authorized _ _ parsed⟩

def plainSurroundings : Surroundings :=
  ⟨plainReader, fun _ => false, fun _ => some none, fun _ => some ⟨true⟩⟩

/-- A SOCKS5 listener with credentials serves a client with them, and only such. -/
theorem socks5_serves_presented :
    (socks5 ⟨lit "u", lit "p"⟩).username ≠ [] ∧
      (socks5 ⟨lit "u", lit "p"⟩).Serves plainSurroundings
        [[5, 1, 2], [1, 1, 0x75, 1, 0x70], [5, 1, 0, 1, 10, 0, 0, 1, 0, 80]] ∧
      (socks5 ⟨lit "u", lit "p"⟩).Presented plainSurroundings
        [[5, 1, 2], [1, 1, 0x75, 1, 0x70], [5, 1, 0, 1, 10, 0, 0, 1, 0, 80]].flatten := by
  have locked : (socks5 ⟨lit "u", lit "p"⟩).username ≠ [] := by decide +kernel
  have serves : (socks5 ⟨lit "u", lit "p"⟩).Serves plainSurroundings
      [[5, 1, 2], [1, 1, 0x75, 1, 0x70], [5, 1, 0, 1, 10, 0, 0, 1, 0, 80]] := by
    change (SOCKS5Config.handleConn _ _ _).1 ≠ .closed
    decide +kernel
  exact ⟨locked, serves,
    (served_presented_iff_only_authorized _ plainSurroundings _ locked).mpr trivial serves⟩

/-- An HTTP listener with credentials serves a client that presents none. -/
theorem http_serves_anyone :
    (http ⟨lit "u", lit "p"⟩).username ≠ [] ∧
      HTTPConfig.handleConn ⟨lit "u", lit "p"⟩ plainReader (fun _ => some ⟨true⟩)
        [lit "CONNECT a:1 HTTP/1.1\r\n\r\n"] =
          some ⟨lit "a:1", connectionEstablished, none, []⟩ ∧
      (http ⟨lit "u", lit "p"⟩).Serves plainSurroundings [lit "CONNECT a:1 HTTP/1.1\r\n\r\n"] ∧
      ¬(http ⟨lit "u", lit "p"⟩).Presented plainSurroundings
        [lit "CONNECT a:1 HTTP/1.1\r\n\r\n"].flatten := by
  have handled : HTTPConfig.handleConn ⟨lit "u", lit "p"⟩ plainReader (fun _ => some ⟨true⟩)
      [lit "CONNECT a:1 HTTP/1.1\r\n\r\n"] = some ⟨lit "a:1", connectionEstablished, none, []⟩ := by
    decide +kernel
  refine ⟨by decide +kernel, handled, ?_, ?_⟩
  · nofun
  · rintro ⟨request, size, again, presented⟩
    cases again
    cases presented

end Inbound

end Shuttle.Proxy
