import Shuttle.Lib.Machine
import Shuttle.Server.Users

/-!
# Traffic accounting

An authenticated stream holds a pointer to its user's `UserState`, and the wrapper around a TCP
stream adds the bytes it moves to that object. Bytes that arrived with the header, datagrams, and
streams that are open while `ReplaceAll` makes a new object for the same token pass beside the
wrapper. Streams and administrative calls run over a heap of such objects.
-/

namespace Shuttle.Server

open Shuttle.Go Shuttle.Lib List Option

structure User where
  token : GoString
  maxBytes : Int64
  enabled : Bool

structure Account where
  token : GoString
  enabled : Bool
  /-- Quota; none when it is not positive. -/
  maxBytes : Int64
  bytesSent : Nat
  bytesRecv : Nat

def Account.ofUser (user : User) : Account := ⟨user.token, user.enabled, user.maxBytes, 0, 0⟩

variable (account : Account)

def Account.totalBytes : Nat := account.bytesSent + account.bytesRecv

def Account.state : UserState :=
  ⟨account.enabled, account.maxBytes, Int64.ofNat account.bytesSent,
    Int64.ofNat account.bytesRecv⟩

def Account.count (received sent : Nat) : Account :=
  { account with
    bytesRecv := account.bytesRecv + received
    bytesSent := account.bytesSent + sent }

theorem Account.totalBytes_count (account : Account) (received sent : Nat) :
    (account.count received sent).totalBytes = account.totalBytes + (sent + received) := by
  show account.bytesSent + sent + (account.bytesRecv + received) =
    account.bytesSent + account.bytesRecv + (sent + received)
  omega

structure UserStream where
  token : GoString
  account : Nat
  transport : Transport
  /-- Payload bytes relayed on it, in both directions. -/
  relayed : Nat
  running : Bool

structure Traffic where
  accounts : List Account
  /-- The table: the number of each token's object. -/
  users : List (GoString × Nat)
  streams : List UserStream

namespace Traffic

/-! ## Administration -/

variable (traffic : Traffic)

def create (user : User) : Traffic :=
  { traffic with
    accounts := traffic.accounts ++ [.ofUser user]
    users := (user.token, traffic.accounts.length) ::
      traffic.users.filter fun entry => entry.1 ≠ user.token }

def replaceAll (users : List User) : Traffic :=
  users.foldl create { traffic with users := [] }

def newUserStore (users : List User) : Traffic := (⟨[], [], []⟩ : Traffic).replaceAll users

/-- Take a token out of the table; its object stays with the streams that hold it. -/
def remove (token : GoString) : Traffic :=
  { traffic with users := traffic.users.filter fun entry => entry.1 ≠ token }

def setEnabled (token : GoString) (enabled : Bool) : Traffic :=
  match traffic.users.lookup token with
  | none => traffic
  | some index =>
    { traffic with
      accounts := traffic.accounts.modify index fun account => { account with enabled := enabled } }

/-! ## Streams -/

def store : UserStore :=
  ⟨traffic.users.map fun entry =>
    (entry.1, (traffic.accounts.getD entry.2 (.ofUser ⟨[], 0, false⟩)).state)⟩

/-- The token in front of a header and the number of its object. -/
def presented (header : GoString) : Option (GoString × Nat) :=
  match indexByte header colon with
  | none => none
  | some position =>
    (traffic.users.lookup (header.take position)).map fun index => (header.take position, index)

/-- The stream that a header leads to; `written` bytes of those behind the header reach the target
uncounted, and the relay starts if all do. -/
def opened (handler : Handler) (read : HeaderRead) (written : Nat) : Option UserStream :=
  match (handler.withUsers traffic.store).dispatchHeader read, traffic.presented read.header with
  | .relay .tcp _ residual _, some (token, index) =>
    some ⟨token, index, .tcp, min written residual.length, residual.length ≤ written⟩
  | .relay .udp _ _ _, some (token, index) => some ⟨token, index, .udp, 0, true⟩
  | _, _ => none

/-- Payload passes on a stream, and bytes are counted in its object. -/
def move (position : Nat) (stream : UserStream) (relayed received sent : Nat) : Traffic :=
  { traffic with
    accounts := traffic.accounts.modify stream.account fun account => account.count received sent
    streams := traffic.streams.set position { stream with relayed := stream.relayed + relayed } }

end Traffic

inductive TrafficEvent where
  | stream (handler : Handler) (read : HeaderRead) (written : Nat)
  /-- The TCP relay read bytes from the client and wrote some of them to the target. -/
  | up (position taken delivered : Nat)
  /-- The TCP relay wrote bytes of the target to the client. -/
  | down (position delivered : Nat)
  /-- The UDP relay passed a datagram, in either direction. -/
  | datagram (position length : Nat)
  | ended (position : Nat)
  | add (token : GoString) (maxBytes : Int64)
  | remove (token : GoString)
  | setEnabled (token : GoString) (enabled : Bool)
  | replaceAll (users : List User)

namespace Traffic

def running (traffic : Traffic) (position : Nat) (transport : Transport) : Option UserStream :=
  (traffic.streams[position]?).filter fun stream => stream.running && stream.transport == transport

variable (traffic : Traffic)

def step : TrafficEvent → Option Traffic
  | .stream handler read written =>
    match traffic.opened handler read written with
    | none => some traffic
    | some stream => some { traffic with streams := traffic.streams ++ [stream] }
  | .up position taken delivered =>
    if delivered ≤ taken then
      (traffic.running position .tcp).map fun stream =>
        traffic.move position stream delivered taken 0
    else none
  | .down position delivered =>
    (traffic.running position .tcp).map fun stream =>
      traffic.move position stream delivered 0 delivered
  | .datagram position length =>
    (traffic.running position .udp).map fun stream => traffic.move position stream length 0 0
  | .ended position =>
    (traffic.streams[position]?).map fun stream =>
      { traffic with streams := traffic.streams.set position { stream with running := false } }
  | .add token maxBytes => some (traffic.create ⟨token, maxBytes, true⟩)
  | .remove token => some (traffic.remove token)
  | .setEnabled token enabled => some (traffic.setEnabled token enabled)
  | .replaceAll users => some (traffic.replaceAll users)

def machine : Machine Traffic TrafficEvent := ⟨step⟩

/-! ## What should be counted -/

def relayed (traffic : Traffic) (token : GoString) : Nat :=
  ((traffic.streams.filter fun stream => stream.token = token).map UserStream.relayed).sum

def accountOf (token : GoString) : Option Account :=
  (traffic.users.lookup token).bind fun index => traffic.accounts[index]?

/-- Every configured user's counters are the payload relayed on its streams. -/
def Accounted : Prop :=
  ∀ token account, traffic.accountOf token = some account →
    account.totalBytes = traffic.relayed token

/-- A step decreases the counters of a user that stays configured. -/
def Falls (event : TrafficEvent) : Prop :=
  ∃ next token before after, traffic.step event = some next ∧
    traffic.accountOf token = some before ∧ next.accountOf token = some after ∧
    after.totalBytes < before.totalBytes

/-- The stream's object is not the token's, or a different number is counted. -/
def Miscounts (stream : UserStream) (relayed counted : Nat) : Prop :=
  ∃ current, traffic.users.lookup stream.token = some current ∧
    (if current = stream.account then counted else 0) ≠ relayed

/-- A step that counts other bytes than it relays, or makes a new object for a token on whose
streams bytes were relayed. -/
def Uncounted : TrafficEvent → Prop
  | .stream handler read written =>
    ∃ stream, traffic.opened handler read written = some stream ∧
      traffic.Miscounts stream stream.relayed 0
  | .up position taken delivered =>
    ∃ stream, traffic.running position .tcp = some stream ∧
      traffic.Miscounts stream delivered taken
  | .down position delivered =>
    ∃ stream, traffic.running position .tcp = some stream ∧
      traffic.Miscounts stream delivered delivered
  | .datagram position length =>
    ∃ stream, traffic.running position .udp = some stream ∧ traffic.Miscounts stream length 0
  | .ended _ => False
  | .add token _ => traffic.relayed token ≠ 0
  | .remove _ => False
  | .setEnabled _ _ => False
  | .replaceAll users => ∃ user ∈ users, traffic.relayed user.token ≠ 0

/-! ## What a step keeps -/

structure Sound (traffic : Traffic) : Prop where
  users : ∀ token index, traffic.users.lookup token = some index →
    ∃ account, traffic.accounts[index]? = some account ∧ account.token = token
  streams : ∀ stream ∈ traffic.streams,
    ∃ account, traffic.accounts[stream.account]? = some account ∧ account.token = stream.token

variable {traffic : Traffic} {stream next : UserStream} {position : Nat}

theorem Sound.account_ne (sound : traffic.Sound)
    (listed : stream ∈ traffic.streams) {token : GoString} {index : Nat}
    (looked : traffic.users.lookup token = some index) (other : stream.token ≠ token) :
    stream.account ≠ index := by
  intro same
  have ⟨account, there, made⟩ := sound.users token index looked
  have ⟨mine, here, madeFor⟩ := sound.streams stream listed
  rw [same, there] at here
  rw [← Option.some.inj here, made] at madeFor
  exact other madeFor.symm

theorem accountOf_create (user : User) (token : GoString) (sound : traffic.Sound) :
    (traffic.create user).accountOf token =
      if token = user.token then some (.ofUser user) else traffic.accountOf token := by
  unfold accountOf create
  rw [lookup_cons]
  by_cases same : token = user.token
  · rw [if_pos same, same, BEq.rfl]
    exact getElem?_concat_length
  · rw [if_neg same, beq_false_of_ne same]
    rw [lookup_filter_ne, if_neg same]
    cases found : traffic.users.lookup token with
    | none => rfl
    | some index =>
      have ⟨account, present, _⟩ := sound.users token index found
      exact List.getElem?_append_left (List.getElem?_eq_some_iff.mp present).1

theorem Sound.create (sound : traffic.Sound) (user : User) : (traffic.create user).Sound where
  users := by
    intro token index found
    unfold Traffic.create at found
    rw [lookup_cons] at found
    by_cases same : token = user.token
    · rw [same, BEq.rfl] at found
      rw [← Option.some.inj found]
      exact ⟨.ofUser user, getElem?_concat_length, same.symm⟩
    · rw [beq_false_of_ne same] at found
      rw [lookup_filter_ne, if_neg same] at found
      have ⟨account, present, made⟩ := sound.users token index found
      exact ⟨account, (getElem?_append_left
        (List.getElem?_eq_some_iff.mp present).1).trans present, made⟩
  streams := by
    intro stream present
    have ⟨account, kept, made⟩ := sound.streams stream present
    exact ⟨account, (getElem?_append_left
      (List.getElem?_eq_some_iff.mp kept).1).trans kept, made⟩

theorem Sound.shrink (sound : traffic.Sound) {users : List (GoString × Nat)}
    (fewer : ∀ token index, users.lookup token = some index →
      traffic.users.lookup token = some index) :
    ({ traffic with users := users } : Traffic).Sound where
  users := fun token index found => sound.users token index (fewer token index found)
  streams := sound.streams

variable (users : List User)

theorem Sound.replaceAll (sound : traffic.Sound) : (traffic.replaceAll users).Sound := by
  have emptied : ({ traffic with users := [] } : Traffic).Sound :=
    sound.shrink fun token index found => nomatch found
  unfold Traffic.replaceAll
  induction users using reverseRecOn with
  | nil => exact emptied
  | append_singleton users user ih =>
    rw [foldl_append]
    exact ih.create user

theorem relayed_replaceAll (token : GoString) :
    (traffic.replaceAll users).relayed token = traffic.relayed token := by
  unfold Traffic.replaceAll
  induction users using reverseRecOn with
  | nil => rfl
  | append_singleton users user ih =>
    rw [foldl_append]
    exact ih

theorem accountOf_replaceAll (sound : traffic.Sound) (token : GoString) :
    (∀ account, (traffic.replaceAll users).accountOf token = some account →
      account.totalBytes = 0 ∧ ∃ user ∈ users, user.token = token) ∧
      ((∃ user ∈ users, user.token = token) →
        ((traffic.replaceAll users).accountOf token).isSome) := by
  induction users using reverseRecOn with
  | nil => exact ⟨fun _ found => (some_ne_none _ found.symm).elim,
      fun ⟨_, absent, _⟩ => absurd absent not_mem_nil⟩
  | append_singleton users user ih =>
    have step : traffic.replaceAll (users ++ [user]) = (traffic.replaceAll users).create user := by
      unfold Traffic.replaceAll
      rw [foldl_append]
      rfl
    rw [step, accountOf_create user token (sound.replaceAll users)]
    by_cases same : token = user.token
    · rw [if_pos same]
      refine ⟨fun account found => ?_, fun _ => rfl⟩
      rw [← Option.some.inj found]
      exact ⟨rfl, user, mem_append_right users (mem_singleton_self user), same.symm⟩
    · rw [if_neg same]
      refine ⟨fun account found => ?_, fun ⟨other, listed, named⟩ => ?_⟩
      · have ⟨zero, other, listed, named⟩ := ih.1 account found
        exact ⟨zero, other, mem_append_left _ listed, named⟩
      · rcases mem_append.mp listed with earlier | last
        · exact ih.2 ⟨other, earlier, named⟩
        · rw [mem_singleton.mp last] at named
          exact absurd named.symm same

theorem Sound.modify (sound : traffic.Sound) (index : Nat) {change : Account → Account}
    (keeps : ∀ account, (change account).token = account.token) :
    ({ traffic with accounts := traffic.accounts.modify index change } : Traffic).Sound := by
  have kept : ∀ {position : Nat} {account : Account},
      traffic.accounts[position]? = some account →
      ∃ changed, (traffic.accounts.modify index change)[position]? = some changed ∧
        changed.token = account.token := by
    intro position account found
    rw [getElem?_modify, found]
    refine ⟨_, rfl, ?_⟩
    split
    · exact keeps account
    · rfl
  constructor
  · intro token position found
    have ⟨account, present, made⟩ := sound.users token position found
    have ⟨changed, there, same⟩ := kept present
    exact ⟨changed, there, same.trans made⟩
  · intro stream present
    have ⟨account, there, made⟩ := sound.streams stream present
    have ⟨changed, still, same⟩ := kept there
    exact ⟨changed, still, same.trans made⟩

theorem Sound.setStream (sound : traffic.Sound)
    (found : traffic.streams[position]? = some stream) (token : next.token = stream.token)
    (account : next.account = stream.account) :
    ({ traffic with streams := traffic.streams.set position next } : Traffic).Sound where
  users := sound.users
  streams := by
    intro other present
    rcases mem_or_eq_of_mem_set present with old | isNew
    · exact sound.streams other old
    · rw [isNew, token, account]
      exact sound.streams stream (mem_of_getElem? found)

theorem opened_lookup {handler : Handler} {read : HeaderRead} {written : Nat}
    (opened : traffic.opened handler read written = some stream) :
    traffic.users.lookup stream.token = some stream.account := by
  have presented : traffic.presented read.header = some (stream.token, stream.account) := by
    unfold Traffic.opened at opened
    split at opened <;> cases opened
    · assumption
    · assumption
  unfold Traffic.presented at presented
  split at presented
  · cases presented
  have ⟨_, looked, same⟩ := map_eq_some_iff.mp presented
  have ⟨token, index⟩ := Prod.mk.inj same
  rw [← token, ← index]
  exact looked

theorem running_some {transport : Transport}
    (running : traffic.running position transport = some stream) :
    traffic.streams[position]? = some stream :=
  (filter_eq_some_iff.mp running).1

theorem Sound.move (sound : traffic.Sound)
    (found : traffic.streams[position]? = some stream) (relayed received sent : Nat) :
    (traffic.move position stream relayed received sent).Sound :=
  have counted := @Sound.modify traffic sound stream.account
    (fun account => account.count received sent) fun _ => rfl
  counted.setStream found rfl rfl

theorem sum_set_relayed {streams : List UserStream}
    (found : streams[position]? = some stream) (token : next.token = stream.token)
    (asked : GoString) (more : Nat) (relayed : next.relayed = stream.relayed + more) :
    (((streams.set position next).filter fun stream => stream.token = asked).map
        UserStream.relayed).sum =
      ((streams.filter fun stream => stream.token = asked).map UserStream.relayed).sum +
        if stream.token = asked then more else 0 := by
  induction streams generalizing position with
  | nil => cases found
  | cons head streams ih =>
    cases position with
    | zero =>
      cases found
      rw [set_cons_zero, filter_cons, filter_cons]
      simp only [token, decide_eq_true_eq]
      split
      · rw [map_cons, sum_cons, map_cons, sum_cons]
        omega
      · rfl
    | succ position =>
      have rest := ih found
      rw [set_cons_succ, filter_cons, filter_cons]
      split
      · rw [map_cons, sum_cons, map_cons, sum_cons]
        omega
      · exact rest

theorem relayed_move
    (found : traffic.streams[position]? = some stream) (more received sent : Nat)
    (token : GoString) :
    (traffic.move position stream more received sent).relayed token =
      traffic.relayed token + if stream.token = token then more else 0 := by
  unfold Traffic.relayed Traffic.move
  rw [@sum_set_relayed stream { stream with relayed := stream.relayed + more } position
    traffic.streams found rfl token more rfl]

theorem accountOf_move (relayed received sent : Nat)
    (token : GoString) :
    (traffic.move position stream relayed received sent).accountOf token =
      (traffic.users.lookup token).bind fun index => (traffic.accounts[index]?).map fun account =>
        if stream.account = index then account.count received sent else account := by
  unfold accountOf Traffic.move
  congr 1
  funext index
  exact getElem?_modify _ _ _ _

theorem relayed_append (stream : UserStream) (token : GoString) :
    ({ traffic with streams := traffic.streams ++ [stream] } : Traffic).relayed token =
      traffic.relayed token + if stream.token = token then stream.relayed else 0 := by
  unfold Traffic.relayed
  by_cases same : stream.token = token <;> simp [same]

end Traffic

end Shuttle.Server
