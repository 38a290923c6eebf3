import Shuttle.Lib.Reader
import Shuttle.Server.SSRF

/-!
# The stream handler

`server/handler.go` reads one header line from a stream, authenticates the token in front of the
target when users are configured, and hands the stream to the mesh or to a UDP or TCP relay. Both
relays dial the target after `IsBlockedTarget` has passed it, and their dial looks the host up
again. A read returns bytes or fails, not both.
-/

namespace Shuttle.Server

open Shuttle.Go Shuttle.Lib List Option

def headerBufferSize : Nat := 512

def newline : UInt8 := 0x0a

def udpStreamPrefix : GoString := lit "UDP:"

structure UserState where
  enabled : Bool
  maxBytes : Int64
  bytesSent : Int64
  bytesRecv : Int64

def UserState.quotaExceeded (user : UserState) : Bool :=
  decide (0 < user.maxBytes) && decide (user.maxBytes ≤ user.bytesSent + user.bytesRecv)

structure UserStore where
  users : List (GoString × UserState)

def UserStore.hasUsers (store : UserStore) : Bool := !store.users.isEmpty

def UserStore.authenticate (store : UserStore) (token : GoString) : Option UserState :=
  match store.users.lookup token with
  | none => none
  | some user => if user.enabled then some user else none

/-- The parts of the server's handler that decide what a stream reaches. -/
structure Handler where
  users : Option UserStore
  /-- Whether a peer table and an allocator are configured. -/
  mesh : Bool
  allowPrivateNetworks : Bool

/-- The handler that takes over a stream; `rest` is what later reads of the stream return. -/
inductive Dispatch where
  | closed
  /-- The mesh, which is given the stream alone. -/
  | mesh (rest : List (List UInt8))
  /-- A relay to a target, with the bytes read after the header. -/
  | relay (transport : Transport) (target : GoString) (residual : List UInt8)
    (rest : List (List UInt8))
  deriving DecidableEq

structure HeaderRead where
  header : GoString
  residual : List UInt8
  rest : List (List UInt8)

/-- Read until a newline is in the buffer; none when a read fails or the buffer is full without one.
-/
def readHeader (buffered : List UInt8) : List (List UInt8) → Option HeaderRead
  | [] => none
  | chunk :: rest =>
    let space := headerBufferSize - buffered.length
    let buffer := buffered ++ chunk.take space
    match indexByte buffer newline with
    | some position =>
      some ⟨buffer.take position, buffer.drop (position + 1), chunk.drop space :: rest⟩
    | none => if headerBufferSize ≤ buffer.length then none else readHeader buffer rest

def Handler.authenticate (handler : Handler) (header : GoString) :
    Option (GoString × Option UserState) :=
  match handler.users with
  | none => some (header, none)
  | some store =>
    if store.hasUsers then
      match indexByte header colon with
      | none => none
      | some position =>
        if position = 0 then none
        else (store.authenticate (header.take position)).map fun user =>
          (header.drop (position + 1), some user)
    else some (header, none)

variable (handler : Handler)

/-- Who takes over a stream after its header: the quota is checked first, then the mesh marker,
then the UDP marker. -/
def Handler.dispatchHeader (read : HeaderRead) : Dispatch :=
  match handler.authenticate read.header with
  | none => .closed
  | some (target, user) =>
    if user.any UserState.quotaExceeded then .closed
    else if target = lit "MESH" ∧ handler.mesh then .mesh read.rest
    else if udpStreamPrefix.isPrefixOf target then
      .relay .udp (trimLead target udpStreamPrefix) read.residual read.rest
    else .relay .tcp target read.residual read.rest

/-- Who takes over a stream, given as the chunks its reads return. -/
def Handler.dispatch (chunks : List (List UInt8)) : Dispatch :=
  match readHeader [] chunks with
  | none => .closed
  | some read => handler.dispatchHeader read

/-- The addresses a stream makes the server connect to or send datagrams to. -/
def Handler.handleStream (network : Network) (chunks : List (List UInt8)) : List Addr :=
  match handler.dispatch chunks with
  | .closed => []
  | .mesh _ => []
  | .relay transport target _ _ =>
    if !handler.allowPrivateNetworks && isBlockedTarget network 0 target then []
    else network.dial 1 transport target

def Handler.Safe (network : Network) (chunks : List (List UInt8)) : Prop :=
  ∀ addr ∈ handler.handleStream network chunks, isBlockedIP addr.as16 = false

variable {handler : Handler} {network : Network} {chunks : List (List UInt8)}
variable {transport : Transport} {target : GoString} {residual : List UInt8}
variable {rest : List (List UInt8)}

theorem safe_of_not_relayed (unrelayed : ∀ transport target residual rest,
      handler.dispatch chunks ≠ .relay transport target residual rest) :
    handler.Safe network chunks := by
  unfold Handler.Safe Handler.handleStream
  cases taken : handler.dispatch chunks with
  | closed | mesh rest => simp
  | relay transport target residual rest =>
    exact absurd taken (unrelayed transport target residual rest)

theorem safe_relay_iff (guarded : handler.allowPrivateNetworks = false)
    (relayed : handler.dispatch chunks = .relay transport target residual rest) :
    handler.Safe network chunks ↔
      ¬(isBlockedTarget network 0 target = false ∧
        ∃ addr ∈ network.dial 1 transport target, isBlockedIP addr.as16 = true) := by
  unfold Handler.Safe Handler.handleStream
  rw [relayed]
  dsimp only
  rw [guarded]
  cases checked : isBlockedTarget network 0 target with
  | true | false => simp

def rebindingNetwork : Network where
  answer := fun query _ =>
    some (if query = 0 then [lit "93.184.216.34"] else [lit "127.0.0.1"])
  lookupPort := fun _ _ => some 80
  attempts := fun _ addrs => addrs
  attempts_mem := fun _ _ _ used => used

/-- A server that protects private networks reaches no blocked address if and only if the stream is
not relayed to a target whose host is exposed, by a zone or by answers that differ between the check
and the dial. -/
theorem handleStream_safe_iff (handler : Handler) (network : Network)
    (chunks : List (List UInt8)) (guarded : handler.allowPrivateNetworks = false) :
    (∀ addr ∈ handler.handleStream network chunks, isBlockedIP addr.as16 = false) ↔
      ∀ transport target residual rest host port,
        handler.dispatch chunks = .relay transport target residual rest →
        splitHostPort target = some (host, port) →
        (network.lookupPort transport port).isSome →
        ¬Exposed network 0 1 transport host := by
  constructor
  · intro safe transport target residual rest host port relayed split service exposed
    exact (safe_relay_iff guarded relayed).mp safe
      (dial_blocked_iff.mpr ⟨host, port, split, service, exposed⟩)
  · intro hidden
    cases taken : handler.dispatch chunks with
    | closed | mesh rest => exact safe_of_not_relayed (by simp [taken])
    | relay transport target residual rest =>
      apply (safe_relay_iff guarded taken).mpr
      intro reached
      have ⟨host, port, split, service, exposed⟩ := dial_blocked_iff.mp reached
      exact hidden transport target residual rest host port taken split service exposed

def guardedHandler : Handler := ⟨none, false, false⟩

/-- A literal public address is dialed, on a network that rebinds every name as well. -/
theorem public_literal_dialed :
    guardedHandler.handleStream rebindingNetwork [lit "93.184.216.34:443\n"] =
        [.v4 0x5db8d822] ∧
      ∀ addr ∈ guardedHandler.handleStream rebindingNetwork [lit "93.184.216.34:443\n"],
        isBlockedIP addr.as16 = false := by
  have taken : guardedHandler.dispatch [lit "93.184.216.34:443\n"] =
      .relay .tcp (lit "93.184.216.34:443") [] [[]] := by decide +kernel
  have parsed : parseAddr (lit "93.184.216.34") = some (.v4 0x5db8d822) := by decide +kernel
  refine ⟨by decide +kernel, (handleStream_safe_iff guardedHandler rebindingNetwork
    [lit "93.184.216.34:443\n"] rfl).mpr ?_⟩
  intro transport target residual rest host port relayed split _ exposed
  cases taken.symm.trans relayed
  have pair : splitHostPort (lit "93.184.216.34:443") = some (lit "93.184.216.34", lit "443") := by
    decide +kernel
  cases pair.symm.trans split
  cases exposed with
  | zoned addr literal zone =>
    cases parsed.symm.trans literal
    exact zone rfl
  | rebound named =>
    cases parsed.symm.trans named

/-- A zoned link-local literal is dialed over TCP, and a name whose second answer is the loopback
address is sent datagrams there. -/
theorem blocked_addresses_reached :
    guardedHandler.handleStream rebindingNetwork [lit "[fe80::1%eth0]:80\n"] =
        [.v6 0xfe800000000000000000000000000001#128 (lit "eth0")] ∧
      isBlockedIP (Addr.v6 0xfe800000000000000000000000000001#128 (lit "eth0")).as16 = true ∧
      guardedHandler.handleStream rebindingNetwork [lit "UDP:rebind.example:53\n"] =
        [.v4 0x7f000001] ∧
      isBlockedIP (Addr.v4 0x7f000001).as16 = true := by
  decide +kernel

/-! ## The hand-over after the header -/

inductive Taker where
  | mesh
  | relay (transport : Transport) (target : GoString)

structure HandOver where
  user : Option UserState
  taker : Taker
  /-- All that the taker reads: a relay is given the bytes read after the header first. -/
  bytes : List UInt8
  /-- Whether the read deadline of the header is still set. -/
  deadline : Bool

/-- The deadline is set in front of the header if the stream supports one; it is cleared for the
relays only. -/
def Handler.handOver (handler : Handler) (deadlines : Bool) (chunks : List (List UInt8)) :
    Option HandOver :=
  match readHeader [] chunks with
  | none => none
  | some read =>
    let user := (handler.authenticate read.header).bind Prod.snd
    match handler.dispatchHeader read with
    | .closed => none
    | .mesh rest => some ⟨user, .mesh, rest.flatten, deadlines⟩
    | .relay transport target residual rest =>
      some ⟨user, .relay transport target, residual ++ rest.flatten, false⟩

/-- The taker reads what follows the first newline, no deadline is left, and user and taker are
those of every other split. -/
structure Handler.HandsOff (handler : Handler) (deadlines : Bool) (chunks : List (List UInt8)) :
    Prop where
  /-- The taker reads exactly the bytes after the first newline. -/
  faithful : ∀ given, handler.handOver deadlines chunks = some given →
    ∃ line, chunks.flatten = line ++ newline :: given.bytes ∧ newline ∉ line
  cleared : ∀ given, handler.handOver deadlines chunks = some given → given.deadline = false
  /-- Another split leads to the same user and taker. -/
  stable : ∀ others : List (List UInt8), others.flatten = chunks.flatten →
    (handler.handOver deadlines others).map (fun given => (given.user, given.taker)) =
      (handler.handOver deadlines chunks).map (fun given => (given.user, given.taker))

def Handler.SelectsMesh (handler : Handler) (line : GoString) : Prop :=
  ∃ user, handler.authenticate line = some (lit "MESH", user) ∧
    user.any UserState.quotaExceeded = false ∧ handler.mesh = true

variable {buffered line tail : List UInt8} {read : HeaderRead}

theorem readHeader_more {chunk : List UInt8} (bounded : buffered.length ≤ headerBufferSize)
    (room : ¬headerBufferSize ≤
      (buffered ++ chunk.take (headerBufferSize - buffered.length)).length) :
    buffered ++ chunk.take (headerBufferSize - buffered.length) = buffered ++ chunk := by
  rw [length_append, length_take] at room
  rw [take_of_length_le (by omega)]

theorem buffer_length_le (bounded : buffered.length ≤ headerBufferSize) (chunk : List UInt8) :
    (buffered ++ chunk.take (headerBufferSize - buffered.length)).length ≤ headerBufferSize := by
  rw [length_append, length_take]
  omega

theorem buffer_append (buffered chunk : List UInt8) (rest : List (List UInt8)) :
    buffered ++ chunk.take (headerBufferSize - buffered.length) ++
        (chunk.drop (headerBufferSize - buffered.length) ++ rest.flatten) =
      buffered ++ (chunk :: rest).flatten := by
  rw [flatten_cons, append_assoc, ← append_assoc (chunk.take _), take_append_drop]

theorem readHeader_sound (chunks : List (List UInt8)) (buffered)
    (bounded : buffered.length ≤ headerBufferSize) (found : readHeader buffered chunks = some
      read) :
    buffered ++ chunks.flatten = read.header ++ newline :: (read.residual ++ read.rest.flatten) ∧
      newline ∉ read.header ∧ read.header.length < headerBufferSize := by
  induction chunks generalizing buffered with
  | nil =>
    cases found
  | cons chunk rest ih =>
    have least := buffer_length_le bounded chunk
    rw [readHeader] at found
    cases indexed : indexByte (buffered ++ chunk.take (headerBufferSize - buffered.length))
        newline with
    | some position =>
      have ⟨split, absent, within⟩ := indexByte_some indexed
      rw [indexed] at found
      cases found
      have whole := buffer_append buffered chunk rest
      refine ⟨?_, absent, by rw [length_take]; omega⟩
      rw [← whole, flatten_cons]
      rw [← cons_append, ← append_assoc (List.take position _), ← split]
    | none =>
      rw [indexed] at found
      dsimp only at found
      split at found
      · cases found
      rename_i room
      have whole := readHeader_more bounded room
      have later := ih _ least found
      rw [whole, append_assoc] at later
      exact later

theorem line_unique {other more : List UInt8}
    (same : line ++ newline :: tail = other ++ newline :: more) (absent : newline ∉ line)
    (otherAbsent : newline ∉ other) : line = other ∧ tail = more := by
  have position := indexByte_append_cons absent tail
  rw [same, indexByte_append_cons otherAbsent] at position
  have ⟨lines, rest⟩ := append_inj same (Option.some.inj position).symm
  exact ⟨lines, (List.cons.inj rest).2⟩

theorem buffer_not_full {chunk : List UInt8} {rest : List (List UInt8)}
    (fits : line.length < headerBufferSize)
    (whole : buffered ++ (chunk :: rest).flatten = line ++ newline :: tail)
    (clear : newline ∉ buffered ++ chunk.take (headerBufferSize - buffered.length)) :
    ¬headerBufferSize ≤ (buffered ++ chunk.take (headerBufferSize - buffered.length)).length := by
  intro full
  have front : line ++ [newline] <+:
      buffered ++ chunk.take (headerBufferSize - buffered.length) := by
    apply prefix_of_prefix_length_le
    · exact ⟨tail, by rw [append_assoc]⟩
    · exact ⟨_, (buffer_append buffered chunk rest).trans whole⟩
    · rw [length_append, length_singleton]
      omega
  exact clear (front.subset (mem_append_right line mem_cons_self))

theorem readHeader_complete (absent : newline ∉ line) (fits : line.length < headerBufferSize)
    (chunks : List (List UInt8)) (buffered) (clean : newline ∉ buffered)
    (bounded : buffered.length ≤ headerBufferSize)
    (whole : buffered ++ chunks.flatten = line ++ newline :: tail) :
    ∃ read, readHeader buffered chunks = some read ∧
      (read.residual = [] ↔ line.length + 1 = headerBufferSize ∨ ∃ before after,
      chunks = before ++ after ∧ buffered ++ before.flatten = line ++ [newline]) := by
  induction chunks generalizing buffered with
  | nil =>
    rw [flatten_nil, append_nil] at whole
    rw [whole] at clean
    exact absurd (mem_append_right line mem_cons_self) clean
  | cons chunk rest ih =>
    have least := buffer_length_le bounded chunk
    have apart : buffered ≠ line ++ [newline] := by
      intro same
      rw [same] at clean
      exact clean (mem_append_right line mem_cons_self)
    rw [ends_cons_iff apart, readHeader]
    cases indexed : indexByte (buffered ++ chunk.take (headerBufferSize - buffered.length))
        newline with
    | some position =>
      have ⟨split, clear, within⟩ := indexByte_some indexed
      have same : (buffered ++ chunk.take (headerBufferSize - buffered.length)).take position ++
          newline :: ((buffered ++ chunk.take (headerBufferSize - buffered.length)).drop
            (position + 1) ++ (chunk.drop (headerBufferSize - buffered.length) ++ rest.flatten)) =
          line ++ newline :: tail := by
        rw [← cons_append, ← append_assoc, ← split, buffer_append, whole]
      have lines := (line_unique same clear absent).1
      have place : position = line.length := by
        rw [← lines, length_take]
        omega
      refine ⟨_, rfl, ?_⟩
      rw [drop_eq_nil_iff]
      constructor
      · intro full
        rw [drop_eq_nil_of_le full, lines] at split
        by_cases small : chunk.length ≤ headerBufferSize - buffered.length
        · rw [take_of_length_le small] at split
          refine .inr ⟨[], rest, rfl, ?_⟩
          rw [flatten_nil, append_nil, split]
        · rw [length_append, length_take] at full
          omega
      · intro ended
        rcases ended with filled | ⟨before, after, _, ends⟩
        · omega
        have lengths := congrArg List.length ends
        rw [length_append, length_append, length_append, length_singleton] at lengths
        rw [length_append, length_take]
        omega
    | none =>
      have clear := indexByte_none_iff.mp indexed
      have room := buffer_not_full fits whole clear
      have all := readHeader_more bounded room
      rw [if_neg room]
      rw [all] at clear least ⊢
      rw [flatten_cons, ← append_assoc] at whole
      exact ih _ clear least whole

variable (handler : Handler) (deadlines : Bool) {chunks others : List (List UInt8)}

theorem readHeader_stable
    (same : others.flatten = chunks.flatten) :
    (readHeader [] others).map HeaderRead.header =
      (readHeader [] chunks).map HeaderRead.header := by
  have small : ([] : List UInt8).length ≤ headerBufferSize := by decide
  have clean : newline ∉ ([] : List UInt8) := not_mem_nil
  cases found : readHeader [] chunks with
  | some read =>
    have ⟨split, absent, fits⟩ := readHeader_sound chunks [] small found
    have ⟨other, otherFound, _⟩ := readHeader_complete absent fits others [] clean small
      (by rw [same]; exact split)
    have ⟨otherSplit, otherAbsent, _⟩ := readHeader_sound others [] small otherFound
    rw [same, split] at otherSplit
    rw [otherFound, map_some, map_some, (line_unique otherSplit absent otherAbsent).1]
  | none =>
    cases otherFound : readHeader [] others with
    | none => rfl
    | some other =>
      have ⟨split, absent, fits⟩ := readHeader_sound others [] small otherFound
      have ⟨read, again, _⟩ := readHeader_complete absent fits chunks [] clean small
        (by rw [← same]; exact split)
      rw [found] at again
      cases again

def Dispatch.taker : Dispatch → Option Taker
  | .closed => none
  | .mesh _ => some .mesh
  | .relay transport target _ _ => some (.relay transport target)

theorem Handler.dispatchHeader_cases (read : HeaderRead) :
    (handler.dispatchHeader read = .mesh read.rest ∧ handler.SelectsMesh read.header) ∨
    (¬handler.SelectsMesh read.header ∧ (handler.dispatchHeader read = .closed ∨
      ∃ transport target,
        handler.dispatchHeader read = .relay transport target read.residual read.rest)) := by
  unfold Handler.dispatchHeader
  cases authenticated : handler.authenticate read.header with
  | none =>
    apply Or.inr
    refine ⟨fun ⟨user, target, _⟩ => ?_, Or.inl rfl⟩
    rw [authenticated] at target
    cases target
  | some pair =>
    have selects : handler.SelectsMesh read.header ↔ pair.1 = lit "MESH" ∧
        pair.2.any UserState.quotaExceeded = false ∧ handler.mesh = true := by
      constructor
      · intro ⟨user, target, within, mesh⟩
        cases authenticated.symm.trans target
        exact ⟨rfl, within, mesh⟩
      · intro ⟨target, within, mesh⟩
        exact ⟨pair.2, by rw [authenticated, ← target], within, mesh⟩
    rw [selects]
    dsimp only
    by_cases exceeded : pair.2.any UserState.quotaExceeded = true
    · rw [exceeded]
      exact Or.inr ⟨fun selected => Bool.noConfusion selected.2.1, Or.inl rfl⟩
    · rw [if_neg exceeded]
      by_cases mesh : pair.1 = lit "MESH" ∧ handler.mesh = true
      · rw [if_pos mesh]
        exact .inl ⟨rfl, mesh.1, Bool.not_eq_true _ ▸ exceeded, mesh.2⟩
      · rw [if_neg mesh]
        apply Or.inr
        refine ⟨fun selected => mesh ⟨selected.1, selected.2.2⟩, Or.inr ?_⟩
        split
        · exact ⟨.udp, _, rfl⟩
        · exact ⟨.tcp, _, rfl⟩

theorem Handler.dispatchHeader_taker {other : HeaderRead}
    (same : read.header = other.header) :
    (handler.dispatchHeader read).taker = (handler.dispatchHeader other).taker := by
  unfold Handler.dispatchHeader
  rw [same]
  cases handler.authenticate other.header with
  | none => rfl
  | some pair =>
    dsimp only
    split
    · rfl
    · split
      · rfl
      · split <;> rfl

theorem Handler.handOver_parties
    {chunks : List (List UInt8)} (found : readHeader [] chunks = some read) :
    (handler.handOver deadlines chunks).map (fun given => (given.user, given.taker)) =
      (handler.dispatchHeader read).taker.map fun taker =>
        ((handler.authenticate read.header).bind Prod.snd, taker) := by
  unfold Handler.handOver
  rw [found]
  dsimp only
  cases handler.dispatchHeader read <;> rfl

theorem Handler.handOver_stable (same : others.flatten = chunks.flatten) :
    (handler.handOver deadlines others).map (fun given => (given.user, given.taker)) =
      (handler.handOver deadlines chunks).map (fun given => (given.user, given.taker)) := by
  have headers := readHeader_stable same
  cases found : readHeader [] chunks with
  | none =>
    rw [found, map_none, map_eq_none_iff] at headers
    rw [Handler.handOver, Handler.handOver, found, headers]
  | some read =>
    rw [found, map_some, map_eq_some_iff] at headers
    have ⟨other, otherFound, header⟩ := headers
    rw [handler.handOver_parties deadlines found, handler.handOver_parties deadlines otherFound,
      handler.dispatchHeader_taker header, header]

theorem Handler.handOver_cases
    {chunks : List (List UInt8)} (found : readHeader [] chunks = some read) :
    (handler.SelectsMesh read.header ∧ ∃ user, handler.handOver deadlines chunks =
      some ⟨user, .mesh, read.rest.flatten, deadlines⟩) ∨
    (¬handler.SelectsMesh read.header ∧ ∀ given, handler.handOver deadlines chunks = some given →
      given.bytes = read.residual ++ read.rest.flatten ∧ given.deadline = false) := by
  unfold Handler.handOver
  rw [found]
  dsimp only
  rcases handler.dispatchHeader_cases read with
    ⟨mesh, selects⟩ | ⟨other, closed | ⟨transport, target, relayed⟩⟩
  · rw [mesh]
    exact .inl ⟨selects, _, rfl⟩
  · rw [closed]
    exact .inr ⟨other, fun given handed => nomatch handed⟩
  · rw [relayed]
    refine .inr ⟨other, fun given handed => ?_⟩
    cases handed
    exact ⟨rfl, rfl⟩

/-- The hand-over is right for every stream, split and path except one that selects the mesh: there
it is right only if the stream has no deadline and nothing was read behind the newline. -/
theorem handsOff_iff_not_mesh (handler : Handler) (deadlines : Bool) (chunks : List (List UInt8)) :
    handler.HandsOff deadlines chunks ↔
      ∀ line tail, chunks.flatten = line ++ newline :: tail → newline ∉ line →
        line.length < headerBufferSize → handler.SelectsMesh line →
        deadlines = false ∧ (line.length + 1 = headerBufferSize ∨
          ∃ before after, chunks = before ++ after ∧ before.flatten = line ++ [newline]) := by
  have small : ([] : List UInt8).length ≤ headerBufferSize := by decide
  have clean : newline ∉ ([] : List UInt8) := not_mem_nil
  constructor
  · intro handsOff line tail split absent fits selects
    have ⟨read, found, boundary⟩ := readHeader_complete absent fits chunks [] clean small split
    have ⟨readSplit, readAbsent, _⟩ := readHeader_sound chunks [] small found
    rw [split] at readSplit
    have ⟨header, behind⟩ := line_unique readSplit absent readAbsent
    rw [header] at selects
    rcases handler.handOver_cases deadlines found with ⟨_, user, given⟩ | ⟨other, _⟩
    · have ⟨other, otherSplit, otherAbsent⟩ := handsOff.faithful _ given
      rw [split] at otherSplit
      have taken := (line_unique otherSplit absent otherAbsent).2
      have nothing : read.residual = [] := by
        rw [behind] at taken
        exact append_left_eq_self.mp taken
      exact ⟨handsOff.cleared _ given, boundary.mp nothing⟩
    · exact absurd selects other
  · intro condition
    have given (taken : HandOver) (handed : handler.handOver deadlines chunks = some taken) :
        (∃ line, chunks.flatten = line ++ newline :: taken.bytes ∧ newline ∉ line) ∧
          taken.deadline = false := by
      cases found : readHeader [] chunks with
      | none =>
        rw [Handler.handOver, found] at handed
        cases handed
      | some read =>
        have ⟨split, absent, fits⟩ := readHeader_sound chunks [] small found
        rcases handler.handOver_cases deadlines found with ⟨selects, user, given⟩ | ⟨_, relayed⟩
        · have ⟨unset, ends⟩ := condition _ _ split absent fits selects
          have ⟨again, foundAgain, boundary⟩ :=
            readHeader_complete absent fits chunks [] clean small split
          cases found.symm.trans foundAgain
          cases given.symm.trans handed
          rw [boundary.mpr ends] at split
          exact ⟨⟨read.header, split, absent⟩, unset⟩
        · have ⟨bytes, cleared⟩ := relayed taken handed
          rw [bytes]
          exact ⟨⟨read.header, split, absent⟩, cleared⟩
    constructor
    · intro taken handed
      exact (given taken handed).1
    · intro taken handed
      exact (given taken handed).2
    · intro others same
      exact handler.handOver_stable deadlines same

def meshHandler : Handler := ⟨none, true, false⟩

/-- The mesh is not given what was read with its header line, and on a stream with deadlines it is
left with the deadline of the header. -/
theorem mesh_loses_residual :
    ¬meshHandler.HandsOff false [lit "MESH\nframe"] ∧
      ¬meshHandler.HandsOff true [lit "MESH\n"] := by
  constructor
  · intro handsOff
    have ⟨line, split, absent⟩ := handsOff.faithful ⟨none, .mesh, [], false⟩ rfl
    have found : indexByte (line ++ newline :: []) newline = some 4 := by
      rw [← split]
      decide +kernel
    have lengths := congrArg List.length split
    rw [indexByte_append_cons absent] at found
    have four := Option.some.inj found
    rw [length_append, four] at lengths
    exact absurd lengths (by decide +kernel)
  · intro handsOff
    exact absurd (handsOff.cleared ⟨none, .mesh, [], true⟩ rfl) (by decide)

end Shuttle.Server
