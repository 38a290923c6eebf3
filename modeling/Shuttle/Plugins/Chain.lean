import Shuttle.Go.Net
import Shuttle.Lib.Machine

/-!
# Connections through a plugin chain

`ChainOutbound` and the server send every connection through `OnConnect` of the plugins in order and
tell them of its end in reverse. The tracker learns of the end by `OnDisconnect`, if the outermost
wrapper is a tracker's, and by `Close` of its own wrapper. The plugins in front of one that refuses
are not told.
-/

namespace Shuttle.Plugins

open Shuttle.Go Shuttle.Lib

/-- A plugin, by the number of the object it is. -/
inductive Plugin where
  | tracker (id : Nat)
  | metrics (id : Nat)
  | filter (id : Nat)
  | logger
  | other
deriving DecidableEq, Repr

structure Emission where
  tracker : Nat
  conn : Nat
  /-- The state is `opened`, not `closed`. -/
  opened : Bool
deriving DecidableEq, Repr

inductive Layer where
  /-- `trackingConn` of a tracker, with its closed flag. -/
  | tracking (id : Nat) (closed : Bool)
  /-- `metricsConn` of a metrics plugin. -/
  | metered (id : Nat)
deriving DecidableEq, Repr

structure Hub where
  blocked : Nat → List GoString
  active : Nat → Int
  log : List Emission

structure ChainedConn where
  passed : List Plugin
  accepted : Bool
  layers : List Layer
  server : Bool
  /-- `OnDisconnect` ran for it. -/
  closed : Bool
deriving DecidableEq, Repr

structure Chained where
  hub : Hub
  conns : List ChainedConn

inductive ChainEvent where
  | connect (target : GoString) (server : Bool)
  | close (conn : Nat)
  | disconnect (conn : Nat)
  | closeLayer (conn depth : Nat)
  | addBlock (id : Nat) (domain : GoString)
  | removeBlock (id : Nat) (domain : GoString)

variable (tables : UnicodeTables) (chain : List Plugin)

namespace Hub

variable (hub : Hub)

def emit (emission : Emission) : Hub := { hub with log := emission :: hub.log }

def count (id : Nat) (change : Int) : Hub :=
  { hub with
    active := fun other => if other = id then hub.active id + change else hub.active other }

def setBlocked (id : Nat) (change : List GoString → List GoString) : Hub :=
  { hub with blocked := fun other =>
      if other = id then change (hub.blocked id) else hub.blocked other }

/-- A plugin refuses a target: a filter does when the host, in lower case, is on its list. -/
def refuses (blocked : Nat → List GoString) (target : GoString) : Plugin → Bool
  | .filter id =>
    let host := ((splitHostPort target).map Prod.fst).getD []
    (blocked id).contains (toLower tables host)
  | _ => false

/-- `OnConnect` of one plugin: the plugins afterwards and the connection in its wrappers. -/
def connectOne (conn : Nat) (layers : List Layer) : Plugin → Hub × List Layer
  | .tracker id => (hub.emit ⟨id, conn, true⟩, .tracking id false :: layers)
  | .metrics id => (hub.count id 1, .metered id :: layers)
  | .filter _ | .logger | .other => (hub, layers)

/-- `OnConnect` of the chain; the error names the plugin that refused. -/
def onConnect (target : GoString) (conn : Nat) :
    List Plugin → Hub → List Layer → Hub × Except Plugin (List Layer)
  | [], hub, layers => (hub, .ok layers)
  | plugin :: rest, hub, layers =>
    if refuses tables hub.blocked target plugin then (hub, .error plugin)
    else onConnect target conn rest (hub.connectOne conn layers plugin).1
      (hub.connectOne conn layers plugin).2

def outermostTracking : List Layer → Bool
  | .tracking _ _ :: _ => true
  | _ => false

/-- `OnDisconnect` of one plugin. A tracker takes any tracker's wrapper for its own. -/
def disconnectOne (conn : Nat) (layers : List Layer) : Plugin → Hub
  | .tracker id => if outermostTracking layers then hub.emit ⟨id, conn, false⟩ else hub
  | .metrics id => hub.count id (-1)
  | .filter _ | .logger | .other => hub

def onDisconnect (conn : Nat) (layers : List Layer) : List Plugin → Hub → Hub
  | [], hub => hub
  | plugin :: rest, hub => (onDisconnect conn layers rest hub).disconnectOne conn layers plugin

def closeLayers (conn : Nat) : List Layer → Hub → Hub × List Layer
  | [], hub => (hub, [])
  | .tracking id true :: inner, hub =>
    let (hub, inner) := closeLayers conn inner hub
    (hub, .tracking id true :: inner)
  | .tracking id false :: inner, hub =>
    let (hub, inner) := closeLayers conn inner (hub.emit ⟨id, conn, false⟩)
    (hub, .tracking id true :: inner)
  | .metered id :: inner, hub =>
    let (hub, inner) := closeLayers conn inner hub
    (hub, .metered id :: inner)

/-- Number of events of one kind that a tracker emitted for a connection. -/
def emitted (id conn : Nat) (opened : Bool) : Nat := hub.log.count ⟨id, conn, opened⟩

end Hub

namespace Chained

def start (blocked : Nat → List GoString) : Chained := ⟨⟨blocked, fun _ => 0, []⟩, []⟩

variable (state : Chained)

def connect (target : GoString) (server : Bool) : Chained :=
  let passed := chain.takeWhile fun plugin => !Hub.refuses tables state.hub.blocked target plugin
  match Hub.onConnect tables target state.conns.length chain state.hub [] with
  | (hub, .ok layers) => ⟨hub, state.conns ++ [⟨passed, true, layers, server, false⟩]⟩
  | (hub, .error _) => ⟨hub, state.conns ++ [⟨passed, false, [], server, false⟩]⟩

def closeFrom (index depth : Nat) (conn : ChainedConn) : Chained :=
  let (hub, inner) := Hub.closeLayers index (conn.layers.drop depth) state.hub
  ⟨hub, state.conns.set index { conn with layers := conn.layers.take depth ++ inner }⟩

def disconnect (index : Nat) (conn : ChainedConn) : Chained :=
  ⟨state.hub.onDisconnect index conn.layers chain,
    state.conns.set index { conn with closed := true }⟩

def step : ChainEvent → Option Chained
  | .connect target server => some (state.connect tables chain target server)
  | .close index =>
    match state.conns[index]? with
    | none => none
    | some conn =>
      if conn.accepted = true ∧ conn.server = false then
        -- The plugins are told by the first call only, the wrappers are closed by every call.
        let told := if conn.closed then state else state.disconnect chain index conn
        some (told.closeFrom index 0 { conn with closed := true })
      else none
  | .disconnect index =>
    match state.conns[index]? with
    | none => none
    | some conn =>
      if conn.accepted = true ∧ conn.server = true ∧ conn.closed = false then
        some (state.disconnect chain index conn)
      else none
  | .closeLayer index depth =>
    match state.conns[index]? with
    | none => none
    | some conn => if conn.accepted then some (state.closeFrom index depth conn) else none
  | .addBlock id domain =>
    some { state with hub := state.hub.setBlocked id (toLower tables domain :: ·) }
  | .removeBlock id domain =>
    some { state with hub := state.hub.setBlocked id (·.filter (· ≠ toLower tables domain)) }

/-- Connections through one chain, one after another or side by side. -/
def machine : Machine Chained ChainEvent := ⟨step tables chain⟩

def openConns : Nat :=
  state.conns.countP fun conn => conn.accepted && !conn.closed

/-- Every tracker emitted one event for the opening and one for the end of each accepted connection,
and none for a refused one; every metrics plugin has the number of open connections. -/
def Accurate : Prop :=
  (∀ id, .tracker id ∈ chain → ∀ (index : Nat) conn, state.conns[index]? = some conn →
    state.hub.emitted id index true = (if conn.accepted then 1 else 0) ∧
      (conn.accepted = true → conn.closed = true → state.hub.emitted id index false = 1)) ∧
    ∀ id, .metrics id ∈ chain → state.hub.active id = state.openConns

end Chained

/-! ## What the loops over the chain and the wrappers count -/

def Plugin.layer : Plugin → Option Layer
  | .tracker id => some (.tracking id false)
  | .metrics id => some (.metered id)
  | .filter _ | .logger | .other => none

def Layer.shut : Layer → Layer
  | .tracking id _ => .tracking id true
  | .metered id => .metered id

/-- The last plugin of the chain that wraps connections is a tracker. -/
def trackerOutermost : Bool := Hub.outermostTracking (chain.filterMap Plugin.layer).reverse

namespace Hub

variable {tables chain} {hub : Hub}

theorem emitted_emit (emission : Emission) (id conn : Nat) (opened : Bool) :
    (hub.emit emission).emitted id conn opened =
      hub.emitted id conn opened + if emission = ⟨id, conn, opened⟩ then 1 else 0 := by
  rw [emitted, emit, List.count_cons]
  simp only [beq_iff_eq, emitted]

theorem active_count (id other : Nat) (change : Int) :
    (hub.count other change).active id = hub.active id + if other = id then change else 0 := by
  rw [count]
  dsimp only
  by_cases same : id = other
  · rw [if_pos same, if_pos same.symm, same]
  · rw [if_neg same, if_neg (Ne.symm same), Int.add_zero]

variable (conn : Nat)

variable (layers : List Layer)

variable (plugin : Plugin)

theorem connectOne_active (id : Nat) :
    (hub.connectOne conn layers plugin).1.active id =
      hub.active id + if plugin = .metrics id then 1 else 0 := by
  cases plugin with
  | metrics other => simp only [connectOne, active_count, Plugin.metrics.injEq]
  | tracker | filter | logger | other => exact (Int.add_zero _).symm

theorem connectOne_emitted (id other : Nat) (opened : Bool) :
    (hub.connectOne conn layers plugin).1.emitted id other opened =
      hub.emitted id other opened +
        if other = conn ∧ opened = true then if plugin = .tracker id then 1 else 0 else 0 := by
  cases plugin with
  | tracker owner =>
    simp only [connectOne, emitted_emit, Emission.mk.injEq]
    congr 1
    by_cases same : other = conn ∧ opened = true
    · simp [same]
    · rw [if_neg same, if_neg]
      exact fun ⟨_, conns, kinds⟩ => same ⟨conns.symm, kinds.symm⟩
  | metrics | filter | logger | other => simp [connectOne, emitted, count]

theorem onConnect_counts (target : GoString) (conn : Nat) : ∀ (chain : List Plugin) (hub : Hub)
    (layers : List Layer),
    let after := (onConnect tables target conn chain hub layers).1
    let passed := chain.takeWhile fun plugin => !refuses tables hub.blocked target plugin
    (∀ id, after.active id = hub.active id + passed.count (.metrics id)) ∧
      ∀ id other opened, after.emitted id other opened = hub.emitted id other opened +
        if other = conn ∧ opened = true then passed.count (.tracker id) else 0 := by
  intro chain
  induction chain with
  | nil =>
    intro hub layers
    exact ⟨fun id => (Int.add_zero _).symm, fun id other opened => by simp [onConnect]⟩
  | cons plugin rest ih =>
    intro hub layers
    rw [onConnect, List.takeWhile_cons]
    split
    · rename_i refused
      rw [refused]
      exact ⟨fun id => (Int.add_zero _).symm, fun id other opened => by simp⟩
    · rename_i passes
      have ⟨active, emitted⟩ := ih (hub.connectOne conn layers plugin).1
        (hub.connectOne conn layers plugin).2
      have same : (hub.connectOne conn layers plugin).1.blocked = hub.blocked := by
        cases plugin <;> rfl
      rw [same] at active emitted
      rw [Bool.eq_false_iff.mpr passes, Bool.not_false, if_pos rfl]
      refine ⟨fun id => ?_, fun id other opened => ?_⟩
      · rw [active id, connectOne_active, List.count_cons]
        simp only [beq_iff_eq]
        split <;> omega
      · rw [emitted id other opened, connectOne_emitted, List.count_cons]
        simp only [beq_iff_eq]
        split <;> omega

theorem onConnect_result (target : GoString) (conn : Nat) : ∀ (chain : List Plugin) (hub : Hub)
    (layers : List Layer), (onConnect tables target conn chain hub layers).2 =
      match chain.find? (refuses tables hub.blocked target) with
      | some plugin => .error plugin
      | none => .ok ((chain.filterMap Plugin.layer).reverse ++ layers) := by
  intro chain
  induction chain with
  | nil => exact fun _ _ => rfl
  | cons plugin rest ih =>
    intro hub layers
    rw [onConnect, List.find?_cons]
    split
    · rename_i refused
      rw [refused]
    · rename_i passes
      have same : (hub.connectOne conn layers plugin).1.blocked = hub.blocked := by
        cases plugin <;> rfl
      have wrapped : (rest.filterMap Plugin.layer).reverse ++
          (hub.connectOne conn layers plugin).2 =
            ((plugin :: rest).filterMap Plugin.layer).reverse ++ layers := by
        cases plugin with
        | tracker | metrics => simp [connectOne, Plugin.layer]
        | filter | logger | other => rfl
      rw [ih, same, wrapped, Bool.eq_false_iff.mpr passes]

theorem disconnectOne_active (id : Nat) :
    (hub.disconnectOne conn layers plugin).active id =
      hub.active id - if plugin = .metrics id then 1 else 0 := by
  cases plugin with
  | metrics other =>
    simp only [disconnectOne, active_count, Plugin.metrics.injEq]
    split <;> omega
  | tracker owner =>
    rw [disconnectOne]
    split <;> exact (Int.sub_zero _).symm
  | filter | logger | other => exact (Int.sub_zero _).symm

theorem disconnectOne_emitted (id other : Nat) (opened : Bool) :
    (hub.disconnectOne conn layers plugin).emitted id other opened =
      hub.emitted id other opened +
        if other = conn ∧ opened = false ∧ outermostTracking layers = true
        then if plugin = .tracker id then 1 else 0 else 0 := by
  cases plugin with
  | tracker owner =>
    rw [disconnectOne]
    by_cases outermost : outermostTracking layers = true
    · simp only [if_pos outermost, emitted_emit, Emission.mk.injEq]
      congr 1
      by_cases same : other = conn ∧ opened = false
      · simp [same, outermost]
      · rw [if_neg, if_neg]
        · exact fun ⟨conns, kinds, _⟩ => same ⟨conns, kinds⟩
        · exact fun ⟨_, conns, kinds⟩ => same ⟨conns.symm, kinds.symm⟩
    · rw [if_neg outermost, if_neg fun ⟨_, _, tracking⟩ => outermost tracking, Nat.add_zero]
  | metrics | filter | logger | other => simp [disconnectOne, emitted, count]

theorem onDisconnect_counts (chain : List Plugin) (hub : Hub) :
    (∀ id, (onDisconnect conn layers chain hub).active id =
      hub.active id - chain.count (.metrics id)) ∧
      ∀ id other opened, (onDisconnect conn layers chain hub).emitted id other opened =
        hub.emitted id other opened +
          if other = conn ∧ opened = false ∧ outermostTracking layers = true
          then chain.count (.tracker id) else 0 := by
  induction chain with
  | nil => exact ⟨fun id => (Int.sub_zero _).symm, fun id other opened => by simp [onDisconnect]⟩
  | cons plugin rest ih =>
    have ⟨active, emitted⟩ := ih
    refine ⟨fun id => ?_, fun id other opened => ?_⟩
    · rw [onDisconnect, disconnectOne_active, active id, List.count_cons]
      simp only [beq_iff_eq]
      split <;> omega
    · rw [onDisconnect, disconnectOne_emitted, emitted id other opened, List.count_cons]
      simp only [beq_iff_eq]
      split <;> omega

theorem closeLayers_counts : ∀ (layers : List Layer) (hub : Hub),
    (closeLayers conn layers hub).2 = layers.map Layer.shut ∧
      (∀ id, (closeLayers conn layers hub).1.active id = hub.active id) ∧
      ∀ id other opened, (closeLayers conn layers hub).1.emitted id other opened =
        hub.emitted id other opened +
          if other = conn ∧ opened = false then layers.count (.tracking id false) else 0 := by
  intro layers
  induction layers with
  | nil => exact fun hub => ⟨rfl, fun _ => rfl, fun _ _ _ => by simp [closeLayers]⟩
  | cons layer inner ih =>
    intro hub
    match layer with
    | .tracking owner true =>
      have ⟨result, active, emitted⟩ := ih hub
      refine ⟨congrArg (Layer.tracking owner true :: ·) result, active, fun id other opened => ?_⟩
      rw [closeLayers, emitted id other opened]
      simp
    | .tracking owner false =>
      have ⟨result, active, emitted⟩ := ih (hub.emit ⟨owner, conn, false⟩)
      refine ⟨congrArg (Layer.tracking owner true :: ·) result, active, fun id other opened => ?_⟩
      rw [closeLayers, emitted id other opened, emitted_emit, List.count_cons]
      simp only [Emission.mk.injEq, beq_iff_eq, Layer.tracking.injEq]
      by_cases same : other = conn ∧ opened = false
      · simp only [same, and_true, if_true]
        omega
      · rw [if_neg same, if_neg same, if_neg]
        exact fun ⟨_, conns, kinds⟩ => same ⟨conns.symm, kinds.symm⟩
    | .metered owner =>
      have ⟨result, active, emitted⟩ := ih hub
      refine ⟨congrArg (Layer.metered owner :: ·) result, active, fun id other opened => ?_⟩
      rw [closeLayers, emitted id other opened]
      simp

end Hub

end Shuttle.Plugins
