import Shuttle.Go.Format
import Shuttle.Lib.Reader

/-!
# The HTTP inbound

`proxy/http.go` reads one request through a buffered reader, which keeps what it has read behind the
request, dials the host and relays the connection itself. Parsing is the standard library's and a
parameter: it asks for more bytes until the head is complete and takes nothing behind it. A
connection is the list of what its reads return.
-/

namespace Shuttle.Proxy

open Shuttle.Go Shuttle.Lib List

structure HTTPConfig where
  username : GoString
  password : GoString

structure Request where
  method : GoString
  host : GoString
  header : List (GoString × GoString)
deriving DecidableEq

inductive Parsed where
  | incomplete
  | malformed
  /-- A request whose head takes this many bytes. -/
  | request (request : Request) (size : Nat)
deriving DecidableEq

/-- `http.ReadRequest`: a parser of request heads that what follows does not change. -/
structure RequestReader where
  parse : List UInt8 → Parsed
  /-- A head is part of what was read. -/
  within : ∀ {bytes request size}, parse bytes = .request request size → size ≤ bytes.length
  /-- A complete head stays the same when more follows. -/
  stable : ∀ {bytes request size}, parse bytes = .request request size →
    ∀ more, parse (bytes ++ more) = .request request size
  refused : ∀ {bytes}, parse bytes = .malformed → ∀ more, parse (bytes ++ more) = .malformed

structure RequestRead where
  request : Request
  /-- Bytes behind the head that the buffered reader holds. -/
  buffered : List UInt8
  /-- What later reads of the connection return. -/
  rest : List (List UInt8)

def readRequest (reader : RequestReader) (buffered : List UInt8) :
    List (List UInt8) → Option RequestRead
  | [] =>
    match reader.parse buffered with
    | .request request size => some ⟨request, buffered.drop size, []⟩
    | _ => none
  | chunk :: rest =>
    match reader.parse buffered with
    | .request request size => some ⟨request, buffered.drop size, chunk :: rest⟩
    | .malformed => none
    | .incomplete => readRequest reader (buffered ++ chunk) rest

structure Remote where
  takesRequest : Bool

structure Tunnel where
  target : GoString
  answer : GoString
  forwarded : Option Request
  /-- Bytes of the client relayed to the remote connection. -/
  relayed : List UInt8
deriving DecidableEq

def dialTarget (host defaultPort : GoString) : GoString :=
  match splitHostPort host with
  | some _ => host
  | none => joinHostPort host defaultPort

def badGateway : GoString := lit "HTTP/1.1 502 Bad Gateway\r\n\r\n"

def connectionEstablished : GoString := lit "HTTP/1.1 200 Connection Established\r\n\r\n"

/-- What a relay copies from the client: everything its own reads return. -/
def proxyRelay (reads : List (List UInt8)) : List UInt8 := reads.flatten

variable (dialer : GoString → Option Remote)

variable (request : Request)

variable (reads : List (List UInt8))

def handleConnect : Tunnel :=
  let target := dialTarget request.host (lit "443")
  match dialer target with
  | none => ⟨target, badGateway, none, []⟩
  | some _ => ⟨target, connectionEstablished, none, proxyRelay reads⟩

/-- Handle a plain request: it is written to the remote connection and the rest is relayed. -/
def handleHTTP : Tunnel :=
  let target := dialTarget request.host (lit "80")
  match dialer target with
  | none => ⟨target, badGateway, none, []⟩
  | some remote =>
    if remote.takesRequest then ⟨target, [], some request, proxyRelay reads⟩
    else ⟨target, [], none, []⟩

def serveHTTP : Tunnel :=
  if request.method = lit "CONNECT" then handleConnect dialer request reads
  else handleHTTP dialer request reads

/-- Handle a connection; none when no request was read. The configured credentials are not
consulted, and what the buffered reader holds is dropped. -/
def HTTPConfig.handleConn (_config : HTTPConfig) (reader : RequestReader)
    (dialer : GoString → Option Remote) (reads : List (List UInt8)) : Option Tunnel :=
  (readRequest reader [] reads).map fun read => serveHTTP dialer read.request read.rest

/-! ## Reading a request -/

variable {reader : RequestReader} {head buffered : List UInt8} {request : Request}

theorem parse_inside {front back : List UInt8}
    (valid : reader.parse head = .request request head.length) (split : head = front ++ back)
    (more : back ≠ []) : reader.parse front = .incomplete := by
  have shorter : front.length < head.length := by
    have positive := length_pos_iff.mpr more
    rw [split, length_append]
    omega
  cases parsed : reader.parse front with
  | incomplete => rfl
  | malformed =>
    have refused := reader.refused parsed back
    rw [← split, valid] at refused
    cases refused
  | request other size =>
    have same := reader.stable parsed back
    have inside := reader.within parsed
    rw [← split, valid] at same
    cases same
    omega

theorem readRequest_done {size : Nat}
    (parsed : reader.parse buffered = .request request size) (reads : List (List UInt8)) :
    readRequest reader buffered reads = some ⟨request, buffered.drop size, reads⟩ := by
  cases reads with
  | nil | cons chunk rest => rw [readRequest, parsed]

theorem readRequest_more (parsed : reader.parse buffered = .incomplete)
    (chunk : List UInt8) (rest : List (List UInt8)) :
    readRequest reader buffered (chunk :: rest) = readRequest reader (buffered ++ chunk) rest := by
  rw [readRequest, parsed]

def EndsHead (head buffered : List UInt8) (reads : List (List UInt8)) : Prop :=
  ∃ before after, reads = before ++ after ∧ buffered ++ before.flatten = head

theorem endsHead_cons (short : buffered.length < head.length)
    (chunk : List UInt8) (rest : List (List UInt8)) :
    EndsHead head buffered (chunk :: rest) ↔ EndsHead head (buffered ++ chunk) rest := by
  apply ends_cons_iff
  intro same
  rw [same] at short
  exact absurd short (Nat.lt_irrefl _)

theorem readRequest_spec
    (valid : reader.parse head = .request request head.length) (tail : List UInt8)
    (reads : List (List UInt8)) : ∀ buffered, buffered ++ reads.flatten = head ++ tail →
      ∃ lost rest, readRequest reader buffered reads = some ⟨request, lost, rest⟩ ∧
        tail = lost ++ rest.flatten ∧ (lost = [] ↔ EndsHead head buffered reads) := by
  have complete (buffered : List UInt8) (reads : List (List UInt8))
      (arrives : buffered ++ reads.flatten = head ++ tail)
      (long : head.length ≤ buffered.length) :
      ∃ lost rest, readRequest reader buffered reads = some ⟨request, lost, rest⟩ ∧
        tail = lost ++ rest.flatten ∧ (lost = [] ↔ EndsHead head buffered reads) := by
    have ⟨lost, whole⟩ : head <+: buffered :=
      prefix_of_prefix_length_le ⟨tail, rfl⟩ ⟨reads.flatten, arrives⟩ long
    have parsed := reader.stable valid lost
    rw [whole] at parsed
    have cut : buffered.drop head.length = lost := by rw [← whole, drop_left]
    refine ⟨lost, reads, ?_, ?_, ?_⟩
    · rw [readRequest_done parsed, cut]
    · rw [← whole, append_assoc] at arrives
      exact (append_cancel_left arrives).symm
    · constructor
      · intro empty
        refine ⟨[], reads, rfl, ?_⟩
        rw [← whole, empty, append_nil, flatten_nil, append_nil]
      · rintro ⟨before, after, _, reaches⟩
        rw [← whole] at reaches
        have same := congrArg List.length reaches
        rw [length_append, length_append] at same
        exact eq_nil_of_length_eq_zero (by omega)
  induction reads with
  | nil =>
    intro buffered arrives
    apply complete _ _ arrives
    have lengths := congrArg List.length arrives
    rw [flatten_nil, append_nil, length_append] at lengths
    omega
  | cons chunk rest ih =>
    intro buffered arrives
    by_cases long : head.length ≤ buffered.length
    · exact complete _ _ arrives long
    have short : buffered.length < head.length := Nat.lt_of_not_le long
    have ⟨back, split⟩ : buffered <+: head :=
      prefix_of_prefix_length_le ⟨(chunk :: rest).flatten, arrives⟩ ⟨tail, rfl⟩
        (Nat.le_of_lt short)
    have more : back ≠ [] := by
      intro empty
      rw [empty, append_nil] at split
      rw [split] at short
      exact absurd short (Nat.lt_irrefl _)
    rw [flatten_cons, ← append_assoc] at arrives
    rw [readRequest_more (parse_inside valid split.symm more), endsHead_cons short]
    exact ih (buffered ++ chunk) arrives

theorem readRequest_request (reads : List (List UInt8)) : ∀ buffered,
    (∃ read, readRequest reader buffered reads = some read ∧ read.request = request) ↔
      ∃ size, reader.parse (buffered ++ reads.flatten) = .request request size := by
  have parsed (buffered : List UInt8) (reads : List (List UInt8)) {found : Request} {size : Nat}
      (held : reader.parse buffered = .request found size) :
      (∃ read, readRequest reader buffered reads = some read ∧ read.request = request) ↔
        ∃ size, reader.parse (buffered ++ reads.flatten) = .request request size := by
    rw [readRequest_done held, reader.stable held]
    constructor
    · rintro ⟨read, same, rfl⟩
      cases same
      exact ⟨size, rfl⟩
    · rintro ⟨other, same⟩
      cases same
      exact ⟨_, rfl, rfl⟩
  induction reads with
  | nil =>
    intro buffered
    cases held : reader.parse buffered with
    | request found size => exact parsed buffered [] held
    | incomplete | malformed =>
      rw [readRequest, flatten_nil, append_nil, held]
      exact iff_of_false nofun nofun
  | cons chunk rest ih =>
    intro buffered
    cases held : reader.parse buffered with
    | request found size => exact parsed buffered (chunk :: rest) held
    | incomplete =>
      rw [readRequest_more held, flatten_cons, ← append_assoc]
      exact ih (buffered ++ chunk)
    | malformed =>
      rw [readRequest, held, reader.refused held]
      exact iff_of_false nofun nofun

/-! ## Tunnels -/

/-- A client's stream that asks for a tunnel, and a split of it into reads. -/
structure ConnectStream (reader : RequestReader) where
  head : List UInt8
  tail : List UInt8
  request : Request
  reads : List (List UInt8)
  valid : reader.parse head = .request request head.length
  connect : request.method = lit "CONNECT"
  arrives : reads.flatten = head ++ tail

/-- A dialed tunnel relays exactly what the client sent behind the head. -/
def ConnectStream.Transparent (stream : ConnectStream reader) (config : HTTPConfig)
    (remote : Remote) : Prop :=
  ∃ tunnel, config.handleConn reader (fun _ => some remote) stream.reads = some tunnel ∧
    tunnel.answer = connectionEstablished ∧ tunnel.relayed = stream.tail

/-- A tunnel is transparent exactly when a read ended at the end of the request head. -/
theorem ConnectStream.transparent_iff_read_ends_head (stream : ConnectStream reader)
    (config : HTTPConfig) (remote : Remote) :
    stream.Transparent config remote ↔ EndsHead stream.head [] stream.reads := by
  have ⟨lost, rest, read, tail, ends⟩ :=
    readRequest_spec stream.valid stream.tail stream.reads [] stream.arrives
  have handled : config.handleConn reader (fun _ => some remote) stream.reads =
      some ⟨dialTarget stream.request.host (lit "443"), connectionEstablished, none,
        rest.flatten⟩ := by
    rw [HTTPConfig.handleConn, read, Option.map_some, serveHTTP, if_pos stream.connect]
    rfl
  rw [Transparent, handled, ← ends]
  constructor
  · rintro ⟨tunnel, same, _, relayed⟩
    cases same
    rw [tail] at relayed
    exact append_left_eq_self.mp relayed.symm
  · intro empty
    refine ⟨_, rfl, rfl, ?_⟩
    rw [tail, empty, nil_append]

/-! ## A parser of plain heads -/

/-- The number of bytes up to the end of the first blank line, given the last bytes before. -/
def scanHead (window : List UInt8) : List UInt8 → Option Nat
  | [] => none
  | byte :: rest =>
    let seen := window ++ [byte]
    if (lit "\r\n\r\n").isSuffixOf seen then some 1
    else (scanHead (seen.drop (seen.length - 3)) rest).map (· + 1)

theorem scanHead_stable (bytes more : List UInt8) : ∀ {window size},
    scanHead window bytes = some size →
      size ≤ bytes.length ∧ scanHead window (bytes ++ more) = some size := by
  induction bytes with
  | nil =>
    intro window size found
    cases found
  | cons byte rest ih =>
    intro window size found
    rw [scanHead] at found
    rw [cons_append, scanHead, length_cons]
    by_cases ended : (lit "\r\n\r\n").isSuffixOf (window ++ [byte]) = true
    · rw [if_pos ended] at found ⊢
      cases found
      exact ⟨Nat.succ_le_succ (Nat.zero_le _), rfl⟩
    · rw [if_neg ended] at found ⊢
      have ⟨inner, found, next⟩ := Option.map_eq_some_iff.mp found
      have ⟨within, same⟩ := ih found
      rw [same, Option.map_some, next]
      exact ⟨by omega, rfl⟩

def headerField (line : GoString) : Option (GoString × GoString) :=
  (indexByte line colon).map fun position =>
    (line.take position, trimTail ((line.drop (position + 1)).dropWhile (· == 0x20)) (lit "\r"))

/-- The request of a head in which the second word of the first line is the host. -/
def plainRequest (head : List UInt8) : Request :=
  let lines := splitByte 0x0a head
  let words := splitByte 0x20 (lines.headD [])
  ⟨words.headD [], words.getD 1 [], lines.tail.filterMap headerField⟩

/-- A parser of heads that end at the first blank line. -/
def plainReader : RequestReader where
  parse bytes :=
    match scanHead [] bytes with
    | none => .incomplete
    | some size => .request (plainRequest (bytes.take size)) size
  within := by
    intro bytes request size parsed
    cases found : scanHead [] bytes with
    | none =>
      rw [found] at parsed
      cases parsed
    | some position =>
      rw [found] at parsed
      cases parsed
      exact (scanHead_stable bytes [] found).1
  stable := by
    intro bytes request size parsed more
    cases found : scanHead [] bytes with
    | none =>
      rw [found] at parsed
      cases parsed
    | some position =>
      have ⟨within, same⟩ := scanHead_stable bytes more found
      rw [found] at parsed
      rw [same, ← parsed]
      dsimp only
      rw [List.take_append_of_le_length within]
  refused := by
    intro bytes parsed
    cases found : scanHead [] bytes with
    | none =>
      rw [found] at parsed
      cases parsed
    | some position =>
      rw [found] at parsed
      cases parsed

def earlyStream : ConnectStream plainReader where
  head := lit "CONNECT a:1 HTTP/1.1\r\n\r\n"
  tail := lit "hello"
  request := ⟨lit "CONNECT", lit "a:1", []⟩
  reads := [lit "CONNECT a:1 HTTP/1.1\r\n\r\nhello"]
  valid := by decide +kernel
  connect := rfl
  arrives := by decide +kernel

/-- Bytes that arrive together with the request head are lost to the tunnel. -/
theorem ConnectStream.early_bytes_lost :
    HTTPConfig.handleConn ⟨[], []⟩ plainReader (fun _ => some ⟨true⟩) earlyStream.reads =
        some ⟨lit "a:1", connectionEstablished, none, []⟩ ∧
      earlyStream.tail = lit "hello" ∧
      ¬earlyStream.Transparent ⟨[], []⟩ ⟨true⟩ := by
  have handled : HTTPConfig.handleConn ⟨[], []⟩ plainReader (fun _ => some ⟨true⟩)
      earlyStream.reads = some ⟨lit "a:1", connectionEstablished, none, []⟩ := by
    decide +kernel
  refine ⟨handled, rfl, ?_⟩
  rintro ⟨tunnel, same, _, relayed⟩
  cases same
  exact absurd relayed (by decide +kernel)

end Shuttle.Proxy
