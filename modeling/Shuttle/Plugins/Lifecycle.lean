import Mathlib.Data.List.TakeWhile
import Shuttle.Lib.Lists
import Shuttle.Plugins.Chain

/-!
# Life cycles of connections behind a plugin chain

A tracker emits an opening for each time it stands in front of a refusal, an end for each of its
wrappers that was closed, and another for each connection whose outermost wrapper is a tracker's; a
metrics plugin counts the open connections and those that were refused behind it.
-/

namespace Shuttle.Plugins

open Shuttle.Go Shuttle.Lib Option List

variable {tables : UnicodeTables} {chain : List Plugin}

/-! ## Wrappers -/

variable (layers : List Layer)

theorem count_shut_true (id : Nat) :
    (layers.map Layer.shut).count (.tracking id true) =
      layers.count (.tracking id false) + layers.count (.tracking id true) := by
  induction layers with
  | nil => rfl
  | cons layer inner ih =>
    rw [map_cons, count_cons, count_cons, count_cons, ih]
    match layer with
    | .tracking owner true | .tracking owner false =>
      simp [Layer.shut]
      omega
    | .metered owner => simp [Layer.shut]

theorem count_shut_false (id : Nat) : (layers.map Layer.shut).count (.tracking id false) = 0 := by
  refine count_eq_zero.mpr fun listed => ?_
  have ⟨layer, _, same⟩ := mem_map.mp listed
  cases layer with
  | tracking | metered => cases same

theorem outermostTracking_close (depth : Nat) :
    Hub.outermostTracking (layers.take depth ++ (layers.drop depth).map Layer.shut) =
      Hub.outermostTracking layers := by
  cases layers with
  | nil => cases depth <;> rfl
  | cons layer inner =>
    cases depth with
    | zero | succ depth => cases layer <;> rfl

theorem count_layers (chain : List Plugin) (id : Nat) (closed : Bool) :
    ((chain.filterMap Plugin.layer).reverse).count (.tracking id closed) =
      if closed then 0 else chain.count (.tracker id) := by
  rw [count_reverse]
  induction chain with
  | nil => cases closed <;> rfl
  | cons plugin rest ih =>
    cases plugin with
    | tracker owner =>
      rw [filterMap_cons, Plugin.layer, count_cons, ih, count_cons]
      cases closed <;> simp
    | metrics owner =>
      rw [filterMap_cons, Plugin.layer, count_cons, ih]
      simp
    | filter | logger | other =>
      rw [filterMap_cons, Plugin.layer, ih]
      simp

namespace Chained

/-! ## What a step keeps -/

/-- How many connections a metrics plugin counts for one. -/
def holding (chain : List Plugin) (id : Nat) (conn : ChainedConn) : Nat :=
  if conn.accepted then if conn.closed then 0 else chain.count (.metrics id)
  else conn.passed.count (.metrics id)

/-- What a tracker emitted for the end of a connection. -/
def endings (chain : List Plugin) (id : Nat) (conn : ChainedConn) : Nat :=
  conn.layers.count (.tracking id true) +
    if conn.closed = true ∧ Hub.outermostTracking conn.layers = true
    then chain.count (.tracker id) else 0

structure Wrapped (chain : List Plugin) (conn : ChainedConn) : Prop where
  passed : conn.passed = chain
  outermost : Hub.outermostTracking conn.layers = trackerOutermost chain
  layers : ∀ id, conn.layers.count (.tracking id false) + conn.layers.count (.tracking id true) =
    chain.count (.tracker id)

structure Sound (chain : List Plugin) (state : Chained) : Prop where
  active : ∀ id, state.hub.active id = ((state.conns.map (holding chain id)).sum : Nat)
  opened : ∀ id (index : Nat) conn, state.conns[index]? = some conn →
    state.hub.emitted id index true = conn.passed.count (.tracker id)
  ended : ∀ id (index : Nat) conn, state.conns[index]? = some conn →
    state.hub.emitted id index false = endings chain id conn
  unknown : ∀ id index kind, state.conns.length ≤ index → state.hub.emitted id index kind = 0
  wrapped : ∀ conn ∈ state.conns, conn.accepted = true → Wrapped chain conn

variable {state next : Chained} {index id : Nat} {conn : ChainedConn}

section Change

variable {changed : ChainedConn} {hub : Hub} (sound : state.Sound chain)
  (others : ∀ id other kind, other ≠ index →
    hub.emitted id other kind = state.hub.emitted id other kind)
  (opened : ∀ id, hub.emitted id index true = changed.passed.count (.tracker id))
  (ended : ∀ id, hub.emitted id index false = endings chain id changed)
  (wrapped : changed.accepted = true → Wrapped chain changed)

include sound others opened ended wrapped

/-- One connection is changed or added. -/
theorem Sound.change {conns : List ChainedConn}
    (places : ∀ {other : Nat} {listed}, conns[other]? = some listed →
      other = index ∧ listed = changed ∨ other ≠ index ∧ state.conns[other]? = some listed)
    (outside : ∀ {other}, conns.length ≤ other → other ≠ index ∧ state.conns.length ≤ other)
    (active : ∀ id, hub.active id = ((conns.map (holding chain id)).sum : Nat)) :
    Sound chain ⟨hub, conns⟩ := by
  refine ⟨active, fun id other listed present => ?_, fun id other listed present => ?_,
    fun id other kind beyond => ?_, fun listed present accepted => ?_⟩
  · rcases places present with ⟨rfl, rfl⟩ | ⟨apart, older⟩
    · exact opened id
    · exact (others id other true apart).trans (sound.opened id other listed older)
  · rcases places present with ⟨rfl, rfl⟩ | ⟨apart, older⟩
    · exact ended id
    · exact (others id other false apart).trans (sound.ended id other listed older)
  · have ⟨apart, beyond⟩ := outside beyond
    exact (others id other kind apart).trans (sound.unknown id other kind beyond)
  · have ⟨other, present⟩ := mem_iff_getElem?.mp present
    rcases places present with ⟨rfl, rfl⟩ | ⟨_, older⟩
    · exact wrapped accepted
    · exact sound.wrapped listed (mem_of_getElem? older) accepted

theorem Sound.update (found : state.conns[index]? = some conn)
    (active : ∀ id, hub.active id + holding chain id conn =
      state.hub.active id + holding chain id changed) :
    Sound chain ⟨hub, state.conns.set index changed⟩ := by
  have inside := (List.getElem?_eq_some_iff.mp found).1
  refine sound.change others opened ended wrapped getElem?_set_cases (fun beyond => ?_)
    fun id => ?_
  · rw [List.length_set] at beyond
    omega
  · have total := @sum_map_set _ _ _ _ changed (holding chain id) found
    have before := sound.active id
    have change := active id
    omega

theorem Sound.append (last : index = state.conns.length)
    (active : ∀ id, hub.active id = state.hub.active id + holding chain id changed) :
    Sound chain ⟨hub, state.conns ++ [changed]⟩ := by
  subst last
  refine sound.change others opened ended wrapped getElem?_append_cases (fun beyond => ?_)
    fun id => ?_
  · rw [length_append, length_singleton] at beyond
    omega
  · have before := sound.active id
    have change := active id
    rw [map_append, sum_append, map_singleton, sum_singleton]
    omega

end Change

def shutFrom (conn : ChainedConn) (depth : Nat) : ChainedConn :=
  { conn with layers := conn.layers.take depth ++ (conn.layers.drop depth).map Layer.shut }

theorem count_shutFrom (conn : ChainedConn) (depth id : Nat) :
    (shutFrom conn depth).layers.count (.tracking id true) =
        conn.layers.count (.tracking id true) +
          (conn.layers.drop depth).count (.tracking id false) ∧
      (shutFrom conn depth).layers.count (.tracking id false) +
          (conn.layers.drop depth).count (.tracking id false) =
        conn.layers.count (.tracking id false) := by
  have parts : ∀ layer, conn.layers.count layer =
      (conn.layers.take depth).count layer + (conn.layers.drop depth).count layer := by
    intro layer
    rw [← count_append, take_append_drop]
  rw [shutFrom, count_append, count_append, count_shut_true, count_shut_false,
    parts (.tracking id true), parts (.tracking id false)]
  omega

theorem Wrapped.shutFrom (wrapped : Wrapped chain conn) (depth : Nat) :
    Wrapped chain (shutFrom conn depth) where
  passed := wrapped.passed
  outermost := (outermostTracking_close conn.layers depth).trans wrapped.outermost
  layers id := by
    have ⟨raised, unset⟩ := count_shutFrom conn depth id
    have total := wrapped.layers id
    omega

theorem closeFrom_eq (index depth : Nat) (conn : ChainedConn) :
    state.closeFrom index depth conn =
      ⟨(Hub.closeLayers index (conn.layers.drop depth) state.hub).1,
        state.conns.set index (shutFrom conn depth)⟩ := by
  have ⟨result, _⟩ := Hub.closeLayers_counts index (conn.layers.drop depth) state.hub
  rw [closeFrom, shutFrom, ← result]

theorem Sound.closeFrom (sound : state.Sound chain)
    (found : state.conns[index]? = some conn) (depth : Nat) :
    Sound chain (state.closeFrom index depth conn) := by
  have ⟨_, active, emitted⟩ := Hub.closeLayers_counts index (conn.layers.drop depth) state.hub
  rw [closeFrom_eq]
  refine sound.update (fun id other kind apart => ?_) (fun id => ?_) (fun id => ?_)
    (fun accepted => ?_) found fun id => by rw [active id]; rfl
  · rw [emitted id other kind, if_neg fun same => apart same.1, Nat.add_zero]
  · rw [emitted id index true, if_neg fun same => Bool.noConfusion same.2]
    exact sound.opened id index conn found
  · have ⟨raised, _⟩ := count_shutFrom conn depth id
    have outermost := outermostTracking_close conn.layers depth
    rw [emitted id index false, if_pos ⟨rfl, rfl⟩, sound.ended id index conn found, endings,
      endings]
    show _ = _ + if conn.closed = true ∧ Hub.outermostTracking (_ ++ _) = true then _ else _
    rw [outermost]
    omega
  · exact (sound.wrapped conn (mem_of_getElem? found) accepted).shutFrom depth

theorem Sound.disconnect (sound : state.Sound chain)
    (found : state.conns[index]? = some conn) (accepted : conn.accepted = true)
    (running : conn.closed = false) : Sound chain (state.disconnect chain index conn) := by
  have ⟨active, emitted⟩ := Hub.onDisconnect_counts index conn.layers chain state.hub
  have wrapped := sound.wrapped conn (mem_of_getElem? found) accepted
  refine sound.update (fun id other kind apart => ?_) (fun id => ?_) (fun id => ?_)
    (fun _ => ⟨wrapped.passed, wrapped.outermost, wrapped.layers⟩) found fun id => ?_
  · rw [emitted id other kind, if_neg fun same => apart same.1, Nat.add_zero]
  · rw [emitted id index true, if_neg fun same => Bool.noConfusion same.2.1]
    exact sound.opened id index conn found
  · rw [emitted id index false, sound.ended id index conn found, endings, endings, running]
    simp
  · rw [active id, holding, holding, accepted, running]
    simp

def connected (passed : List Plugin) (server : Bool) : Except Plugin (List Layer) → ChainedConn
  | .ok layers => ⟨passed, true, layers, server, false⟩
  | .error _ => ⟨passed, false, [], server, false⟩

theorem connect_eq (target : GoString) (server : Bool) :
    state.connect tables chain target server =
      ⟨(Hub.onConnect tables target state.conns.length chain state.hub []).1,
        state.conns ++ [connected
          (chain.takeWhile fun plugin => !Hub.refuses tables state.hub.blocked target plugin) server
          (Hub.onConnect tables target state.conns.length chain state.hub []).2]⟩ := by
  rw [connect]
  rcases Hub.onConnect tables target state.conns.length chain state.hub [] with ⟨hub, result⟩
  cases result with
  | ok | error => rfl

theorem Sound.connect (sound : state.Sound chain) (target : GoString) (server : Bool) :
    Sound chain (state.connect tables chain target server) := by
  have ⟨active, emitted⟩ :=
    @Hub.onConnect_counts tables target state.conns.length chain state.hub []
  have result := @Hub.onConnect_result tables target state.conns.length chain state.hub []
  have silent := fun id kind => sound.unknown id state.conns.length kind (Nat.le_refl _)
  have others : ∀ id other kind, other ≠ state.conns.length → _ = _ :=
    fun id other kind apart => (emitted id other kind).trans
      (by rw [if_neg fun same => apart same.1, Nat.add_zero])
  have opened := fun id => emitted id state.conns.length true
  have ended := fun id => emitted id state.conns.length false
  rw [connect_eq]
  cases refusing : chain.find? (Hub.refuses tables state.hub.blocked target) with
  | none =>
    have all : (chain.takeWhile fun plugin =>
        !Hub.refuses tables state.hub.blocked target plugin) = chain := by
      refine takeWhile_eq_self_iff.mpr fun plugin listed => ?_
      have passes := find?_eq_none.mp refusing plugin listed
      rw [Bool.eq_false_iff.mpr passes, Bool.not_false]
    rw [refusing, append_nil] at result
    rw [all] at active opened ⊢
    rw [result, connected]
    refine sound.append others (fun id => ?_) (fun id => ?_) (fun _ => ⟨rfl, rfl, fun id => ?_⟩)
      rfl active
    · rw [opened id, silent id true, if_pos ⟨rfl, rfl⟩, Nat.zero_add]
    · rw [ended id, silent id false, endings, count_layers]
      simp
    · rw [count_layers, count_layers]
      simp
  | some plugin =>
    rw [refusing] at result
    rw [result, connected]
    refine sound.append others (fun id => ?_) (fun id => ?_) nofun rfl active
    · rw [opened id, silent id true, if_pos ⟨rfl, rfl⟩, Nat.zero_add]
    · rw [ended id, silent id false, endings]
      simp

/-- Connections of `ChainOutbound` that were closed have all their wrappers closed. -/
def Shut (state : Chained) : Prop :=
  ∀ conn ∈ state.conns, conn.server = false → conn.closed = true →
    ∀ id, conn.layers.count (.tracking id false) = 0

theorem count_shutFrom_zero (conn : ChainedConn) (id : Nat) :
    (shutFrom conn 0).layers.count (.tracking id false) = 0 :=
  count_shut_false conn.layers id

theorem Shut.set (shut : state.Shut) (hub : Hub) (index : Nat) {changed : ChainedConn}
    (own : changed.server = false → changed.closed = true →
      ∀ id, changed.layers.count (.tracking id false) = 0) :
    Shut ⟨hub, state.conns.set index changed⟩ := by
  intro other listed engine closed
  rcases mem_or_eq_of_mem_set listed with older | rfl
  · exact shut other older engine closed
  · exact own engine closed

theorem step_kept {event : ChainEvent} (sound : state.Sound chain) (shut : state.Shut)
    (stepped : state.step tables chain event = some next) : next.Sound chain ∧ next.Shut := by
  cases event with
  | connect target server =>
    cases stepped
    refine ⟨sound.connect target server, ?_⟩
    rw [connect_eq]
    intro conn listed _ closed
    rcases mem_append.mp listed with older | new
    · exact shut conn older ‹_› closed
    · rw [mem_singleton.mp new, connected.eq_def] at closed
      split at closed <;> cases closed
  | close index =>
    rw [Chained.step] at stepped
    split at stepped
    · cases stepped
    rename_i conn found
    have ⟨⟨accepted, _⟩, same⟩ := ite_none_right_eq_some.mp stepped
    cases same
    constructor
    · by_cases closed : conn.closed = true
      · rw [if_pos closed]
        have same : { conn with closed := true } = conn := by rw [← closed]
        rw [same]
        exact sound.closeFrom found 0
      · rw [if_neg closed]
        have told := sound.disconnect found accepted (Bool.eq_false_iff.mpr closed)
        have inside := (List.getElem?_eq_some_iff.mp found).1
        exact told.closeFrom (getElem?_set_self inside) 0
    · have once : ∀ changed,
          (if conn.closed then state else state.disconnect chain index conn).conns.set index
            changed = state.conns.set index changed := by
        intro changed
        split
        · rfl
        · exact set_set _
      rw [closeFrom_eq, once]
      exact shut.set _ index fun _ _ id => count_shutFrom_zero _ id
  | disconnect index =>
    rw [Chained.step] at stepped
    split at stepped
    · cases stepped
    rename_i conn found
    have ⟨⟨accepted, server, running⟩, same⟩ := ite_none_right_eq_some.mp stepped
    cases same
    exact ⟨sound.disconnect found accepted running,
      shut.set _ index fun engine => absurd (server.symm.trans engine) nofun⟩
  | closeLayer index depth =>
    rw [Chained.step] at stepped
    split at stepped
    · cases stepped
    rename_i conn found
    have ⟨_, same⟩ := ite_none_right_eq_some.mp stepped
    cases same
    refine ⟨sound.closeFrom found depth, ?_⟩
    rw [closeFrom_eq]
    refine shut.set _ index fun engine closed id => ?_
    have none := shut conn (mem_of_getElem? found) engine closed id
    have ⟨_, fewer⟩ := count_shutFrom conn depth id
    omega
  | addBlock id domain | removeBlock id domain =>
    cases stepped
    exact ⟨⟨sound.active, sound.opened, sound.ended, sound.unknown, sound.wrapped⟩, shut⟩

/-! ## Whole runs -/

/-- Connections that a metrics plugin counts although a plugin behind it refused them. -/
def refusedBehind (state : Chained) (id : Nat) : Nat :=
  ((state.conns.filter fun conn => !conn.accepted).map fun conn =>
    conn.passed.count (.metrics id)).sum

theorem sum_holding (chain : List Plugin) (id : Nat) (conns : List ChainedConn) :
    (conns.map (holding chain id)).sum =
      chain.count (.metrics id) * (conns.countP fun conn => conn.accepted && !conn.closed) +
        ((conns.filter fun conn => !conn.accepted).map fun conn =>
          conn.passed.count (.metrics id)).sum := by
  induction conns with
  | nil => rfl
  | cons conn conns ih =>
    rw [map_cons, sum_cons, ih, countP_cons, filter_cons, holding]
    cases conn.accepted with
    | true =>
      cases conn.closed with
      | true => simp
      | false => simp [Nat.mul_add]; omega
    | false => simp; omega

theorem run_sound {blocked : Nat → List GoString} {events : List ChainEvent}
    (ran : (machine tables chain).run (start blocked) events = some state) :
    state.Sound chain ∧ state.Shut := by
  refine Machine.run_invariant (fun state => state.Sound chain ∧ state.Shut)
    (fun both stepped => step_kept both.1 both.2 stepped) events ⟨?_, ?_⟩ ran
  · exact ⟨fun _ => rfl, fun _ _ _ found => (nomatch found), fun _ _ _ found => (nomatch found),
      fun _ _ _ _ => rfl, nofun⟩
  · exact nofun

theorem endings_eq_one_iff (shut : conn.server = false →
    conn.closed = true → conn.layers.count (.tracking id false) = 0) (wrapped : Wrapped chain conn)
    (once : chain.count (.tracker id) = 1) (closed : conn.closed = true) :
    endings chain id conn = 1 ↔
      if conn.server then
        conn.layers.count (.tracking id true) = if trackerOutermost chain then 0 else 1
      else trackerOutermost chain = false := by
  have total := wrapped.layers id
  rw [endings, wrapped.outermost, once]
  cases server : conn.server with
  | true =>
    cases trackerOutermost chain <;> simp [closed]
  | false =>
    have none := shut server closed
    cases trackerOutermost chain <;> simp [closed] <;> omega

theorem Sound.events_iff (sound : state.Sound chain) (shut : state.Shut)
    (found : state.conns[index]? = some conn) :
    (state.hub.emitted id index true = (if conn.accepted then 1 else 0) ∧
      (conn.accepted = true → conn.closed = true → state.hub.emitted id index false = 1)) ↔
    (conn.accepted = false → .tracker id ∉ conn.passed) ∧
      (conn.accepted = true → chain.count (.tracker id) = 1 ∧ (conn.closed = true →
        if conn.server then
          conn.layers.count (.tracking id true) = if trackerOutermost chain then 0 else 1
        else trackerOutermost chain = false)) := by
  have listed := mem_of_getElem? found
  rw [sound.opened id index conn found, sound.ended id index conn found]
  cases accepted : conn.accepted with
  | false => simp [count_eq_zero]
  | true =>
    have wrapped := sound.wrapped conn listed accepted
    have shutHere : conn.server = false → conn.closed = true →
        conn.layers.count (.tracking id false) = 0 :=
      fun engine closed => shut conn listed engine closed id
    rw [wrapped.passed]
    constructor
    · intro ⟨once, ended⟩
      refine ⟨fun refused => (nomatch refused), fun _ => ⟨once, fun closed => ?_⟩⟩
      exact (endings_eq_one_iff shutHere wrapped once closed).mp (ended rfl closed)
    · intro ⟨_, right⟩
      have ⟨once, ended⟩ := right rfl
      refine ⟨once, fun _ closed => ?_⟩
      exact (endings_eq_one_iff shutHere wrapped once closed).mpr (ended closed)

theorem Sound.active_iff (sound : state.Sound chain) (listed : .metrics id ∈ chain) :
    state.hub.active id = state.openConns ↔
      (chain.count (.metrics id) - 1) * state.openConns + state.refusedBehind id = 0 := by
  have ⟨more, count⟩ : ∃ more, chain.count (.metrics id) = more + 1 :=
    Nat.exists_eq_succ_of_ne_zero (Nat.pos_iff_ne_zero.mp (count_pos_iff.mpr listed))
  rw [sound.active id, sum_holding, count, Nat.succ_sub_one, Nat.succ_mul]
  show ((more * state.openConns + state.openConns + state.refusedBehind id : Nat) : Int) =
    state.openConns ↔ _
  omega

/-- In every run the events and the numbers are accurate exactly if every tracker stands once in the
chain, no plugin behind it refused a connection, the end of each connection reaches it once, and no
metrics plugin counts a connection twice or one refused behind it. -/
theorem accurate_iff (tables : UnicodeTables) (chain : List Plugin)
    (blocked : Nat → List GoString) (events : List ChainEvent) (state : Chained)
    (ran : (machine tables chain).run (start blocked) events = some state) :
    state.Accurate chain ↔
      (∀ id, .tracker id ∈ chain → ∀ (index : Nat) conn, state.conns[index]? = some conn →
        (conn.accepted = false → .tracker id ∉ conn.passed) ∧
        (conn.accepted = true → chain.count (.tracker id) = 1 ∧ (conn.closed = true →
          if conn.server then
            conn.layers.count (.tracking id true) = if trackerOutermost chain then 0 else 1
          else trackerOutermost chain = false))) ∧
      ∀ id, .metrics id ∈ chain →
        (chain.count (.metrics id) - 1) * state.openConns + state.refusedBehind id = 0 := by
  have ⟨sound, shut⟩ := run_sound ran
  refine and_congr ?_ ?_
  · refine forall_congr' fun id => imp_congr_right fun _ => forall_congr' fun index =>
      forall_congr' fun conn => imp_congr_right fun found => ?_
    exact sound.events_iff shut found
  · exact forall_congr' fun id => imp_congr_right fun listed => sound.active_iff listed

def closingEvents : List ChainEvent :=
  [.connect (lit "a:1") false, .connect (lit "b:2") false, .close 0, .close 0]

/-- With the tracker inside the metrics plugin everything is accurate. -/
theorem accurate_inside_metrics : ∃ state,
    (machine bytewiseTables [.tracker 0, .metrics 0]).run (start fun _ => []) closingEvents =
      some state ∧ state.openConns = 1 ∧ state.hub.emitted 0 0 false = 1 ∧
        state.Accurate [.tracker 0, .metrics 0] := by
  refine ⟨_, rfl, rfl, rfl, (accurate_iff bytewiseTables _ (fun _ => []) closingEvents _ rfl).mpr
    ⟨fun id listed index conn found => ?_, fun id listed => ?_⟩⟩
  · have only : id = 0 := by simpa using listed
    subst only
    rcases mem_cons.mp (mem_of_getElem? found) with rfl | later
    · decide
    · cases mem_singleton.mp later
      decide
  · have only : id = 0 := by simpa using listed
    subst only
    decide

/-- With the chain of the engine the end of a connection is emitted twice, and a refused connection
stays counted. -/
theorem ends_twice_and_refused_counted :
    (∃ state, (machine bytewiseTables [.metrics 0, .tracker 0, .logger]).run (start fun _ => [])
        closingEvents = some state ∧ state.hub.emitted 0 0 false = 2) ∧
    ∃ state, (machine bytewiseTables [.metrics 0, .tracker 0, .filter 0]).run
        (start fun _ => [lit "a"]) [.connect (lit "a:1") false] = some state ∧
      state.openConns = 0 ∧ state.hub.active 0 = 1 ∧ state.hub.emitted 0 0 true = 1 :=
  ⟨⟨_, rfl, rfl⟩, _, rfl, rfl, rfl, rfl⟩

end Chained

end Shuttle.Plugins
