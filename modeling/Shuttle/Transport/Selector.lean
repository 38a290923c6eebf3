import Shuttle.Lib.Machine
import Shuttle.Transport.Migrator
import Shuttle.Transport.Pool

/-!
# The transport selector

The selector keeps one transport active, switches it when probes or failed dials say so, and has
its migrator drain the connections made before. The machine interleaves dials, probes, switches,
the pool of warm connections and the drain loop at the granularity of their locks.
-/

namespace Shuttle.Selector

open Shuttle.Go Shuttle.Lib

/-- Strategies other than multipath; every other name selects as `auto`. -/
inductive Strategy where
  | auto
  | priority
  | latency

structure Config (τ : Type) where
  transports : List τ
  typeOf : τ → GoString
  strategy : Strategy
  serverAddr : GoString
  warmUpConns : Int
  poolMaxIdle : Int
  poolIdleTTL : Int
  drainTimeout : Int

structure ProbeResult (τ : Type) where
  transport : τ
  latency : Int
  available : Bool

inductive Origin where
  | pool
  | selector
deriving DecidableEq, Repr

/-- A connection made: by which transport, and dialed by whom. -/
structure Made (τ : Type) where
  transport : τ
  origin : Origin
deriving DecidableEq, Repr

inductive Loop where
  | initial
  | fallback
deriving DecidableEq, Repr

inductive Returned where
  | raw (conn : Nat)
  | migrated (wrapper : Nat)
deriving DecidableEq, Repr

inductive Stage (τ : Type) where
  | pool
  | poolDial
  | dialing (active : τ)
  | migrating (active : τ)
  | trying (loop : Loop) (transport : τ) (rest : List τ)
  | choosing (loop : Loop) (transport : τ) (conn : Nat)
  | tracking (transport : τ) (conn : Nat)
  | returned (result : Returned)
  | failed
deriving DecidableEq, Repr

structure Dial (τ : Type) where
  active : Option τ
  activeFailed : Bool
  stage : Stage τ
deriving DecidableEq, Repr

structure State (τ : Type) where
  strategy : Strategy
  probes : GoMap GoString (ProbeResult τ)
  active : Option τ
  started : Bool
  pool : Option (ConnPool τ)
  /-- The selector still refers to the pool. -/
  attached : Bool
  warming : Nat
  migrator : Migrator
  made : List (Made τ)
  dials : List (Dial τ)

inductive DialEvent where
  | get (now : Int)
  | dialed (ok : Bool)
  | proceed (now : Int)

inductive Event (τ : Type) where
  | start
  | warmUp (ok : Bool) (now : Int)
  | evict (now : Int)
  | probed (result : ProbeResult τ)
  /-- The transport is chosen anew, with the probes visited in this order. -/
  | maybeSwitch (order : List GoString) (now : Int)
  | setStrategy (strategy : Strategy)
  | dial
  | advance (dial : Nat) (event : DialEvent)
  | migrate (now : Int)
  | drainIdle (now : Int)
  | wrapStream (wrapper : Nat)
  | closeStream (wrapper : Nat)
  /-- A draining connection was dialed again through a transport. -/
  | redialed (transport : τ)
  | detachPool
  | closePool
  | closeMigrator

section Step

variable {τ : Type} (config : Config τ)

def Config.Pools : Prop :=
  0 < config.warmUpConns ∧ config.transports ≠ [] ∧ config.serverAddr ≠ []

/-- A new selector: every transport counts as available. -/
def new : State τ where
  strategy := config.strategy
  probes := config.transports.foldl
    (fun probes transport => probes.set (config.typeOf transport) ⟨transport, 0, true⟩) GoMap.empty
  active := none
  started := false
  pool := none
  attached := false
  warming := 0
  migrator := .new config.drainTimeout
  made := []
  dials := []

variable (state : State τ) (probes : GoMap GoString (ProbeResult τ))

/-- The pool of the first transport is made, and its warm-up dials begin. -/
def start : State τ :=
  match config.transports with
  | [] => { state with started := true }
  | first :: _ =>
    if 0 < config.warmUpConns ∧ config.serverAddr ≠ [] then
      let maxIdle := if config.poolMaxIdle ≤ 0 then config.warmUpConns else config.poolMaxIdle
      { state with
        started := true
        pool := some (.new first maxIdle config.poolIdleTTL)
        attached := true
        warming := config.warmUpConns.toNat }
    else { state with started := true }

def connect (transport : τ) (origin : Origin) : State τ :=
  { state with made := state.made ++ [⟨transport, origin⟩] }

variable (order : List GoString) (dial : Dial τ)

def lowestLatency : Option (ProbeResult τ) :=
  order.foldl (fun best key =>
    match probes key with
    | none => best
    | some probe =>
      if probe.available = false then best
      else if best.all fun other => probe.latency < other.latency then some probe
      else best) none

def firstAvailable : Option τ :=
  config.transports.find? fun transport =>
    (probes (config.typeOf transport)).any ProbeResult.available

def selectBest : Option τ :=
  match state.strategy with
  | .latency => (lowestLatency state.probes order).map ProbeResult.transport
  | .priority | .auto => firstAvailable config state.probes

/-- Migrate to the best transport unless one of its type is active. -/
def maybeSwitch (now : Int) : State τ :=
  match selectBest config state order with
  | none => state
  | some best =>
    if state.active.any fun active => config.typeOf active = config.typeOf best then state
    else { state with migrator := state.migrator.migrate now, active := some best }

def tryFrom (loop : Loop) : List τ → Stage τ
  | [] => .failed
  | transport :: rest => .trying loop transport rest

/-- Dial past the pool: the active transport, or any when none is active. -/
def withoutPool : Dial τ :=
  match dial.active with
  | none => { dial with stage := tryFrom .initial config.transports }
  | some active => { dial with stage := .dialing active }

def beginDial : Dial τ :=
  if state.attached then ⟨state.active, false, .pool⟩
  else withoutPool config ⟨state.active, false, .failed⟩

def askPool (now : Int) : Option (State τ × Dial τ) :=
  match state.pool with
  | none => none
  | some pool =>
    if pool.closed then some (state, withoutPool config dial)
    else
      match pool.take now with
      | (some conn, pool) =>
        some ({ state with pool := some pool }, { dial with stage := .returned (.raw conn) })
      | (none, pool) => some ({ state with pool := some pool }, { dial with stage := .poolDial })

def dialReturns (ok : Bool) : Option (State τ × Dial τ) :=
  match dial.stage with
  | .poolDial =>
    match state.pool with
    | none => none
    | some pool =>
      if ok then
        some (connect state pool.transport .pool,
          { dial with stage := .returned (.raw state.made.length) })
      else some (state, withoutPool config dial)
  | .dialing active =>
    if ok then
      some (connect state active .selector,
        { dial with stage := .tracking active state.made.length })
    else some (state, { dial with activeFailed := true, stage := .migrating active })
  | .trying loop transport rest =>
    if ok then
      some (connect state transport .selector,
        { dial with stage := .choosing loop transport state.made.length })
    else some (state, { dial with stage := tryFrom loop rest })
  | _ => none

/-- A call of `Dial` passes a locked section. -/
def proceed (now : Int) : Option (State τ × Dial τ) :=
  match dial.stage with
  | .migrating active =>
    let others := config.transports.filter fun transport =>
      config.typeOf transport ≠ config.typeOf active
    some ({ state with migrator := state.migrator.migrate now },
      { dial with stage := tryFrom .fallback others })
  | .choosing loop transport conn =>
    let active := match loop with
      | .initial => state.active.getD transport
      | .fallback => transport
    some ({ state with active := some active }, { dial with stage := .tracking transport conn })
  | .tracking transport conn =>
    some ({ state with migrator := state.migrator.track conn (config.typeOf transport) },
      { dial with stage := .returned (.migrated state.migrator.tracked.length) })
  | _ => none

def advance : DialEvent → Option (State τ × Dial τ)
  | .get now =>
    match dial.stage with
    | .pool => askPool config state dial now
    | _ => none
  | .dialed ok => dialReturns config state dial ok
  | .proceed now => proceed config state dial now

/-- A warm-up dial returns, and its connection is put into the pool. -/
def warmUp (ok : Bool) (now : Int) : Option (State τ) :=
  match state.warming, state.pool with
  | left + 1, some pool =>
    if ok then
      some { connect state pool.transport .pool with
        warming := left, pool := some (pool.put state.made.length now) }
    else some { state with warming := left }
  | _, _ => none

variable [DecidableEq τ]

def step (state : State τ) : Event τ → Option (State τ)
  | .start => if state.started then none else some (start config state)
  | .warmUp ok now => warmUp state ok now
  | .evict now => some { state with pool := state.pool.map (·.evictExpired now) }
  | .probed result =>
    if result.transport ∈ config.transports then
      some { state with probes := state.probes.set (config.typeOf result.transport) result }
    else none
  | .maybeSwitch order now =>
    if order.isPerm (config.transports.map config.typeOf).dedup then
      some (maybeSwitch config state order now)
    else none
  | .setStrategy strategy => some { state with strategy := strategy }
  | .dial => some { state with dials := state.dials ++ [beginDial config state] }
  | .advance i event =>
    match state.dials[i]? with
    | none => none
    | some dial =>
      (advance config state dial event).map fun (state, dial) =>
        { state with dials := state.dials.set i dial }
  | .migrate now => some { state with migrator := state.migrator.migrate now }
  | .drainIdle now => some { state with migrator := state.migrator.drainIdle now }
  | .wrapStream wrapper =>
    (state.migrator.wrapStream wrapper).map fun migrator => { state with migrator := migrator }
  | .closeStream wrapper =>
    (state.migrator.closeStream wrapper).map fun migrator => { state with migrator := migrator }
  | .redialed transport =>
    if transport ∈ config.transports then
      some { connect state transport .selector with
        migrator := state.migrator.track state.made.length (config.typeOf transport) }
    else none
  | .detachPool => some { state with attached := false }
  | .closePool =>
    if state.attached then none else some { state with pool := state.pool.map ConnPool.close }
  | .closeMigrator =>
    if state.attached then none else some { state with migrator := state.migrator.close }

def machine : Machine (State τ) (Event τ) := ⟨step config⟩

end Step

end Shuttle.Selector
