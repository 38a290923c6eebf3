import Shuttle.Go.Text
import Shuttle.Lib.Machine

/-!
# The multipath pool

`transport/selector/multipath.go` keeps one connection on every transport. A health check dials a
path again when its streams failed often enough in a row, and streams are opened only on paths that
have a connection, so the failures of a path without one no longer change. A call picks a path,
reads its connection, opens the stream and updates the failures in separate steps.
-/

namespace Shuttle.Multipath

open Shuttle.Go Shuttle.Lib List Option

structure Path where
  transport : GoString
  conn : Option Nat
  failures : Nat
  available : Bool
  dialed : Bool

/-- By how far it is; `todo` are the paths that the fallback has still to look at. -/
inductive OpenCall where
  /-- About to pick a path. -/
  | calling
  | picked (path : Nat)
  | opening (path conn : Nat) (todo : List Nat)
  /-- Opened a stream and about to clear the failures. -/
  | opened (path conn : Nat)
  /-- Got no stream and about to count the failure. -/
  | refused (path : Nat) (todo : List Nat)
  | falling (todo : List Nat)
  | returned (conn : Option Nat)
deriving DecidableEq, Repr

inductive Check where
  | idle
  /-- About to look at these paths. -/
  | checking (todo : List Nat)
  /-- Found a path with too many failures and about to close its connection. -/
  | closing (path : Nat) (todo : List Nat)
  | dialing (path : Nat) (todo : List Nat)
deriving DecidableEq, Repr

structure MultipathPool where
  /-- Failures in a row after which a path is dialed again. -/
  pathFailureThreshold : Int
  paths : List Path
  made : Nat
  dead : List Nat
  calls : List OpenCall
  check : Check

inductive Event where
  | call
  | pick (call : Nat) (path : Option Nat)
  | advance (call : Nat)
  | answer (call : Nat) (ok : Bool)
  /-- Probe results arrive: the availability by transport type. -/
  | updateMetrics (probes : GoString → Option Bool)
  | lose (conn : Nat)
  | tick
  /-- The health check looks at its next path or closes the connection of a stale one. -/
  | check
  | dialed (ok : Bool)

def Path.first (number : Nat) (outcome : GoString × Bool) : Path :=
  if outcome.2 then ⟨outcome.1, some number, 0, true, true⟩
  else ⟨outcome.1, none, 1, false, false⟩

def Path.eligible (threshold : Int) (path : Path) : Bool :=
  path.available && path.conn.isSome && path.failures < threshold

def Path.stale (threshold : Int) (path : Path) : Bool := threshold ≤ path.failures

def Path.disconnect (path : Path) : Path := { path with conn := none }

def Path.reconnect (conn : Nat) (path : Path) : Path :=
  { path with conn := some conn, available := true, failures := 0, dialed := true }

def Path.fail (path : Path) : Path := { path with failures := path.failures + 1 }

def Path.succeed (path : Path) : Path := { path with failures := 0 }

def Path.probe (probes : GoString → Option Bool) (path : Path) : Path :=
  { path with available := (probes path.transport).getD path.available }

namespace MultipathPool

/-- A new pool, given the outcome of the first dial of each transport; a threshold that is not
positive selects 3. -/
def new (outcomes : List (GoString × Bool)) (pathFailureThreshold : Int) : MultipathPool where
  pathFailureThreshold := if pathFailureThreshold ≤ 0 then 3 else pathFailureThreshold
  paths := outcomes.mapIdx Path.first
  made := outcomes.length
  dead := []
  calls := []
  check := .idle

variable (pool : MultipathPool)

def setCall (call : Nat) (stage : OpenCall) : MultipathPool :=
  { pool with calls := pool.calls.set call stage }

variable (path : Nat)

def setPath (change : Path → Path) : MultipathPool :=
  { pool with paths := pool.paths.modify path change }

def others (failed : Nat) : List Nat :=
  (List.range pool.paths.length).filter fun path => path ≠ failed

/-- The next step of a call, other than picking a path and the answer of a connection. -/
def advance (call : Nat) : OpenCall → Option MultipathPool
  | .picked path =>
    (pool.paths[path]?).map fun found =>
      match found.conn with
      | none => pool.setCall call (.refused path (pool.others path))
      | some conn => pool.setCall call (.opening path conn (pool.others path))
  | .opened path conn => some ((pool.setPath path .succeed).setCall call (.returned (some conn)))
  | .refused path todo => some ((pool.setPath path .fail).setCall call (.falling todo))
  | .falling [] => some (pool.setCall call (.returned none))
  | .falling (path :: todo) =>
    (pool.paths[path]?).map fun found =>
      if !found.available || found.stale pool.pathFailureThreshold then
        pool.setCall call (.falling todo)
      else match found.conn with
        | none => pool.setCall call (.falling todo)
        | some conn => pool.setCall call (.opening path conn todo)
  | _ => none

/-- The health check looks at a path and takes it up when it is stale. -/
def checkPath (todo : List Nat) (found : Path) : MultipathPool :=
  if found.stale pool.pathFailureThreshold then { pool with check := .closing path todo }
  else { pool with check := .checking todo }

/-- The health check closes the connection of a stale path and dials. -/
def closePath (todo : List Nat) (found : Path) : MultipathPool :=
  { pool.setPath path .disconnect with
    dead := found.conn.toList ++ pool.dead
    check := .dialing path todo }

def step : Event → Option MultipathPool
  | .call => some { pool with calls := pool.calls ++ [.calling] }
  | .pick call none =>
    if pool.calls[call]? = some .calling ∧
        pool.paths.all fun path => !path.eligible pool.pathFailureThreshold then
      some (pool.setCall call (.returned none))
    else none
  | .pick call (some path) =>
    if pool.calls[call]? = some .calling ∧
        (pool.paths[path]?).any fun found => found.eligible pool.pathFailureThreshold then
      some (pool.setCall call (.picked path))
    else none
  | .advance call => (pool.calls[call]?).bind fun stage => pool.advance call stage
  | .answer call ok =>
    match pool.calls[call]? with
    | some (.opening path conn todo) =>
      if ok then
        if conn ∈ pool.dead then none else some (pool.setCall call (.opened path conn))
      else some (pool.setCall call (.refused path todo))
    | _ => none
  | .updateMetrics probes => some { pool with paths := pool.paths.map (Path.probe probes) }
  | .lose conn => some { pool with dead := conn :: pool.dead }
  | .tick =>
    if pool.check = .idle then
      some { pool with check := .checking (List.range pool.paths.length) }
    else none
  | .check =>
    match pool.check with
    | .checking [] => some { pool with check := .idle }
    | .checking (path :: todo) => (pool.paths[path]?).map (pool.checkPath path todo)
    | .closing path todo => (pool.paths[path]?).map (pool.closePath path todo)
    | _ => none
  | .dialed ok =>
    match pool.check with
    | .dialing path todo =>
      if ok then
        some { pool.setPath path (.reconnect pool.made) with
          made := pool.made + 1
          check := .checking todo }
      else some { pool with check := .checking todo }
    | _ => none

def machine : Machine MultipathPool Event := ⟨step⟩

/-- The health check, which is about to look at a path, takes it up and dials it. -/
def Redials : Prop :=
  ∃ todo next closed, pool.check = .checking (path :: todo) ∧ pool.step .check = some next ∧
    next.step .check = some closed ∧ closed.check = .dialing path todo

/-- A call clears the failures of a path whose connection the health check has given up since. -/
def LateSuccess (event : Event) : Prop :=
  ∃ call path conn found, event = .advance call ∧ pool.calls[call]? = some (.opened path conn) ∧
    pool.paths[path]? = some found ∧
    (found.conn = none ∨ ∃ todo, pool.check = .closing path todo)

end MultipathPool

def OpenCall.inHand : OpenCall → Option Nat
  | .picked path => some path
  | .opening path _ _ => some path
  | .opened path _ => some path
  | .refused path _ => some path
  | _ => none

/-! ## What a step does -/

theorem Path.conn_of_eligible (path : Path) {threshold : Int}
    (eligible : path.eligible threshold = true) : path.conn ≠ none := by
  simp only [Path.eligible, Bool.and_eq_true] at eligible
  exact isSome_iff_ne_none.mp eligible.1.2

namespace MultipathPool

/-- A call may deal with a path: it has a connection, or a call deals with it already. -/
def Reaches (pool : MultipathPool) (path : Nat) : Prop :=
  (∃ found, pool.paths[path]? = some found ∧ found.conn ≠ none) ∨
    ∃ call ∈ pool.calls, call.inHand = some path

inductive Effect (pool : MultipathPool) (event : Event) : MultipathPool → Prop where
  /-- Only calls go on, or a connection is lost. -/
  | talk (calls : List OpenCall) (dead : List Nat)
    (hands : ∀ call ∈ calls, ∀ path, call.inHand = some path → pool.Reaches path) :
    Effect pool event { pool with calls := calls, dead := dead }
  | succeed (call path conn : Nat) (isAdvance : event = .advance call)
    (stage : pool.calls[call]? = some (.opened path conn)) :
    Effect pool event ((pool.setPath path .succeed).setCall call (.returned (some conn)))
  | fail (call path : Nat) (todo : List Nat)
    (stage : pool.calls[call]? = some (.refused path todo)) :
    Effect pool event ((pool.setPath path .fail).setCall call (.falling todo))
  | probe (probes : GoString → Option Bool) :
    Effect pool event { pool with paths := pool.paths.map (Path.probe probes) }
  /-- The health check goes on, and takes up stale paths only. -/
  | look (check : Check) (stale : ∀ path todo, check = .closing path todo →
      ∃ found, pool.paths[path]? = some found ∧ found.stale pool.pathFailureThreshold = true) :
    Effect pool event { pool with check := check }
  | close (path : Nat) (todo : List Nat) (found : Path)
    (stage : pool.check = .closing path todo) (present : pool.paths[path]? = some found) :
    Effect pool event (pool.closePath path todo found)
  | reconnect (path : Nat) (todo : List Nat) :
    Effect pool event { pool.setPath path (.reconnect pool.made) with
      made := pool.made + 1, check := .checking todo }

variable {pool next : MultipathPool} {call : Nat} {stage : OpenCall} {event : Event}

theorem hands_set (allowed : ∀ path, stage.inHand = some path → pool.Reaches path) :
    ∀ other ∈ pool.calls.set call stage, ∀ path, other.inHand = some path → pool.Reaches path := by
  intro other present path hand
  rcases mem_or_eq_of_mem_set present with old | isNew
  · exact .inr ⟨other, old, hand⟩
  · exact allowed path (isNew ▸ hand)

theorem Effect.drop (call : Nat) (free : stage.inHand = none) :
    Effect pool event (pool.setCall call stage) := by
  apply Effect.talk
  apply hands_set
  intro path hand
  rw [free] at hand
  cases hand

theorem Effect.hold (call : Nat) {path : Nat}
    (hand : stage.inHand = some path) (reaches : pool.Reaches path) :
    Effect pool event (pool.setCall call stage) := by
  apply Effect.talk
  apply hands_set
  intro other same
  rw [hand] at same
  rwa [← Option.some.inj same]

theorem advance_effect (at' : pool.calls[call]? = some stage)
    (advanced : pool.advance call stage = some next) : Effect pool (.advance call) next := by
  have held : ∀ {path}, stage.inHand = some path → pool.Reaches path :=
    fun hand => .inr ⟨stage, mem_of_getElem? at', hand⟩
  cases stage with
  | picked path =>
    have ⟨found, present, same⟩ := map_eq_some_iff.mp advanced
    rw [← same]
    cases conn : found.conn with
    | none | some number => exact .hold call rfl (held rfl)
  | opened path conn =>
    cases advanced
    exact .succeed call path conn rfl at'
  | refused path todo =>
    cases advanced
    exact .fail call path todo at'
  | falling todo =>
    cases todo with
    | nil =>
      cases advanced
      exact .drop call rfl
    | cons path todo =>
      have ⟨found, present, same⟩ := map_eq_some_iff.mp advanced
      rw [← same]
      split
      · exact .drop call rfl
      cases conn : found.conn with
      | none => exact .drop call rfl
      | some number =>
        exact .hold call rfl (.inl ⟨found, present, by rw [conn]; simp⟩)
  | calling | opening path conn todo | returned conn => cases advanced

theorem answer_effect {ok : Bool} (stepped : pool.step (.answer call ok) = some next) :
    Effect pool (.answer call ok) next := by
  rw [step] at stepped
  split at stepped
  · rename_i path conn todo stage
    have held : pool.Reaches path := .inr ⟨_, mem_of_getElem? stage, rfl⟩
    cases ok with
    | false =>
      cases stepped
      exact .hold call rfl held
    | true =>
      have ⟨_, same⟩ := ite_none_left_eq_some.mp stepped
      cases same
      exact .hold call rfl held
  · cases stepped

theorem check_effect (stepped : pool.step .check = some next) : Effect pool .check next := by
  rw [step] at stepped
  split at stepped
  · cases stepped
    exact .look _ nofun
  · have ⟨found, present, same⟩ := map_eq_some_iff.mp stepped
    rw [← same]
    unfold checkPath
    split
    · rename_i stale
      apply Effect.look
      intro other rest isClosing
      cases isClosing
      exact ⟨found, present, stale⟩
    · exact .look _ nofun
  · rename_i path todo stage
    have ⟨found, present, same⟩ := map_eq_some_iff.mp stepped
    rw [← same]
    exact .close path todo found stage present
  · cases stepped

theorem step_effect (stepped : pool.step event = some next) : Effect pool event next := by
  cases event with
  | call =>
    cases stepped
    apply Effect.talk
    intro call present path hand
    rcases mem_append.mp present with old | isNew
    · exact .inr ⟨call, old, hand⟩
    · rw [mem_singleton.mp isNew] at hand
      cases hand
  | pick call path =>
    cases path with
    | none =>
      have ⟨_, same⟩ := ite_none_right_eq_some.mp stepped
      cases same
      exact .drop call rfl
    | some path =>
      have ⟨⟨_, eligible⟩, same⟩ := ite_none_right_eq_some.mp stepped
      cases same
      cases present : pool.paths[path]? with
      | none =>
        rw [present] at eligible
        cases eligible
      | some found =>
        rw [present] at eligible
        exact .hold call rfl (.inl ⟨found, present, found.conn_of_eligible eligible⟩)
  | advance call =>
    have ⟨stage, at', advanced⟩ := bind_eq_some_iff.mp stepped
    exact advance_effect at' advanced
  | answer call ok => exact answer_effect stepped
  | updateMetrics probes =>
    cases stepped
    exact .probe probes
  | lose conn =>
    cases stepped
    exact .talk _ _ fun call present path hand => .inr ⟨call, present, hand⟩
  | tick =>
    have ⟨_, same⟩ := ite_none_right_eq_some.mp stepped
    cases same
    exact .look _ nofun
  | check => exact check_effect stepped
  | dialed ok =>
    rw [step] at stepped
    split at stepped
    · rename_i path todo stage
      cases ok with
      | false =>
        cases stepped
        exact .look _ nofun
      | true =>
        cases stepped
        exact .reconnect path todo
    · cases stepped

end MultipathPool

/-! ## Paths that were never connected -/

/-- A path that was never connected is as the first dial left it. -/
def Path.Untouched (path : Path) : Prop :=
  path.dialed = false → path.conn = none ∧ path.failures = 1

namespace MultipathPool

/-- What every step keeps: no call deals with a path that was never connected. -/
structure Sound (pool : MultipathPool) : Prop where
  paths : ∀ path ∈ pool.paths, path.Untouched
  calls : ∀ call ∈ pool.calls, ∀ path, call.inHand = some path →
    ∃ found, pool.paths[path]? = some found ∧ found.dialed = true

variable {pool next : MultipathPool} {path : Nat} {change : Path → Path} {event : Event}

theorem Sound.reached (sound : pool.Sound) (reaches : pool.Reaches path) :
    ∃ found, pool.paths[path]? = some found ∧ found.dialed = true := by
  rcases reaches with ⟨found, present, connected⟩ | ⟨call, listed, hand⟩
  · refine ⟨found, present, ?_⟩
    cases dialed : found.dialed with
    | true => rfl
    | false => exact absurd (sound.paths found (mem_of_getElem? present) dialed).1 connected
  · exact sound.calls call listed path hand

theorem setPath_some {position : Nat} {changed : Path}
    (found : (pool.setPath path change).paths[position]? = some changed) :
    ∃ old, pool.paths[position]? = some old ∧
      changed = if path = position then change old else old := by
  rw [MultipathPool.setPath, List.getElem?_modify] at found
  have ⟨old, there, same⟩ := map_eq_some_iff.mp found
  exact ⟨old, there, same.symm⟩

theorem forall_setPath {holds : Path → Prop}
    (own : ∀ found, pool.paths[path]? = some found → holds (change found))
    (others : ∀ found ∈ pool.paths, holds found) :
    ∀ changed ∈ (pool.setPath path change).paths, holds changed := by
  intro changed present
  have ⟨position, found⟩ := List.getElem?_of_mem present
  have ⟨old, there, same⟩ := setPath_some found
  rw [same]
  split
  · rename_i here
    exact own old (here ▸ there)
  · exact others old (mem_of_getElem? there)

section

variable (sound : pool.Sound)

include sound

theorem Sound.setPath (keeps : ∀ found, pool.paths[path]? = some found → (change found).Untouched)
    (dialed : ∀ found : Path, found.dialed = true → (change found).dialed = true) :
    (pool.setPath path change).Sound := by
  refine ⟨forall_setPath keeps sound.paths, fun call listed position hand => ?_⟩
  have ⟨found, present, once⟩ := sound.calls call listed position hand
  rw [MultipathPool.setPath, List.getElem?_modify, present]
  refine ⟨_, rfl, ?_⟩
  split
  · exact dialed found once
  · exact once

/-- A call changes the path in its hand and lets go of it. -/
theorem Sound.settle {call : Nat} {stage after : OpenCall}
    (listed : pool.calls[call]? = some stage) (hand : stage.inHand = some path)
    (same : ∀ found, (change found).dialed = found.dialed) (free : after.inHand = none) :
    ((pool.setPath path change).setCall call after).Sound := by
  have ⟨paths, calls⟩ : (pool.setPath path change).Sound := by
    refine sound.setPath (fun found present never => ?_) fun found once => (same found).trans once
    have ⟨other, there, once⟩ := sound.calls stage (mem_of_getElem? listed) path hand
    cases there.symm.trans present
    rw [same, once] at never
    cases never
  refine ⟨paths, fun other present path hand => ?_⟩
  rcases mem_or_eq_of_mem_set present with old | isNew
  · exact calls other old path hand
  · rw [isNew, free] at hand
    cases hand

theorem Sound.step (stepped : pool.step event = some next) : next.Sound := by
  cases step_effect stepped with
  | talk calls dead hands =>
    exact ⟨sound.paths, fun call listed path hand => sound.reached (hands call listed path hand)⟩
  | succeed call path conn _ stage | fail call path todo stage =>
    exact sound.settle stage rfl (fun _ => rfl) rfl
  | probe probes =>
    constructor
    · intro path present
      have ⟨old, there, same⟩ := mem_map.mp present
      rw [← same]
      exact sound.paths old there
    · intro call listed path hand
      have ⟨found, present, once⟩ := sound.calls call listed path hand
      exact ⟨found.probe probes, by rw [List.getElem?_map, present]; rfl, once⟩
  | look check _ => exact ⟨sound.paths, sound.calls⟩
  | close path todo found stage present =>
    have kept : (pool.setPath path .disconnect).Sound :=
      sound.setPath (fun old there untouched =>
        ⟨rfl, (sound.paths old (mem_of_getElem? there) untouched).2⟩) fun _ once => once
    exact ⟨kept.paths, kept.calls⟩
  | reconnect path todo =>
    have kept : (pool.setPath path (.reconnect pool.made)).Sound :=
      sound.setPath (fun _ _ => nofun) fun _ _ => rfl
    exact ⟨kept.paths, kept.calls⟩

end

/-! ## Paths that lost their connection -/

def Gave (threshold : Int) (path : Path) : Prop :=
  path.dialed = true → path.conn = none → path.stale threshold = true

/-- What the steps without a late success keep. -/
structure Timely (pool : MultipathPool) : Prop where
  paths : ∀ path ∈ pool.paths, Gave pool.pathFailureThreshold path
  taken : ∀ path todo, pool.check = .closing path todo →
    ∀ found, pool.paths[path]? = some found → found.stale pool.pathFailureThreshold = true

theorem Timely.setPath (timely : pool.Timely) (gave : ∀ found, pool.paths[path]? = some found →
      Gave pool.pathFailureThreshold (change found))
    (stale : ∀ todo, pool.check = .closing path todo → ∀ found, pool.paths[path]? = some found →
      (change found).stale pool.pathFailureThreshold = true) :
    (pool.setPath path change).Timely := by
  refine ⟨forall_setPath gave timely.paths, ?_⟩
  intro position todo closing changed found
  have ⟨old, there, same⟩ := setPath_some found
  rw [same]
  split
  · rename_i own
    exact stale todo (own ▸ closing) old (own ▸ there)
  · exact timely.taken position todo closing old there

theorem stale_fail {threshold : Int} {path : Path} (stale : path.stale threshold = true) :
    path.fail.stale threshold = true := by
  have reached : threshold ≤ path.failures := of_decide_eq_true stale
  apply decide_eq_true
  show threshold ≤ ((path.failures + 1 : Nat) : Int)
  omega

theorem Timely.step (timely : pool.Timely)
    (stepped : pool.step event = some next) (inTime : ¬pool.LateSuccess event) : next.Timely := by
  cases step_effect stepped with
  | talk calls dead hands => exact ⟨timely.paths, timely.taken⟩
  | succeed call path conn isAdvance stage =>
    have kept : (pool.setPath path .succeed).Timely := by
      refine timely.setPath (fun found present once lost => ?_) fun todo closing found present => ?_
      · exact absurd ⟨call, path, conn, found, isAdvance, stage, present, .inl lost⟩ inTime
      · exact absurd ⟨call, path, conn, found, isAdvance, stage, present, .inr ⟨todo, closing⟩⟩
          inTime
    exact ⟨kept.paths, kept.taken⟩
  | fail call path todo stage =>
    have kept : (pool.setPath path .fail).Timely :=
      timely.setPath (fun found present once lost =>
        stale_fail (timely.paths found (mem_of_getElem? present) once lost))
        fun todo closing found present => stale_fail (timely.taken path todo closing found present)
    exact ⟨kept.paths, kept.taken⟩
  | probe probes =>
    constructor
    · intro path present
      have ⟨old, there, same⟩ := mem_map.mp present
      rw [← same]
      exact timely.paths old there
    · intro path todo closing found present
      rw [List.getElem?_map] at present
      have ⟨old, there, same⟩ := map_eq_some_iff.mp present
      rw [← same]
      exact timely.taken path todo closing old there
  | look check stale =>
    refine ⟨timely.paths, fun path todo closing found present => ?_⟩
    have ⟨other, there, isStale⟩ := stale path todo closing
    rw [there] at present
    exact Option.some.inj present ▸ isStale
  | close path todo found stage present =>
    have kept : (pool.setPath path .disconnect).Timely :=
      timely.setPath (fun old there _ _ => timely.taken path todo stage old there)
        fun rest closing old there => timely.taken path rest closing old there
    exact ⟨kept.paths, nofun⟩
  | reconnect path todo =>
    refine ⟨?_, nofun⟩
    exact forall_setPath (fun _ _ _ lost => absurd lost (some_ne_none _)) timely.paths

/-! ## Whole runs -/

theorem new_sound (outcomes : List (GoString × Bool)) (threshold : Int) :
    (new outcomes threshold).Sound ∧ (new outcomes threshold).Timely := by
  have fresh : ∀ path ∈ (new outcomes threshold).paths,
      path.Untouched ∧ (path.dialed = true → path.conn ≠ none) := by
    intro path present
    have ⟨position, bound, same⟩ := mem_mapIdx.mp present
    rw [← same, Path.first]
    split
    · exact ⟨nofun, fun _ => some_ne_none position⟩
    · exact ⟨fun _ => ⟨rfl, rfl⟩, nofun⟩
  exact ⟨⟨fun path present => (fresh path present).1, nofun⟩,
    ⟨fun path present once lost => absurd lost ((fresh path present).2 once), nofun⟩⟩

theorem check_not_dialing {todo rest : List Nat}
    (looks : pool.check = .checking todo) (stepped : pool.step .check = some next) :
    next.check ≠ .dialing path rest := by
  rw [step, looks] at stepped
  cases todo with
  | nil =>
    cases stepped
    exact nofun
  | cons first todo =>
    have ⟨found, _, same⟩ := map_eq_some_iff.mp stepped
    rw [← same, checkPath]
    split <;> exact nofun

theorem redials_iff_stale {todo : List Nat} {found : Path}
    (looks : pool.check = .checking (path :: todo)) (present : pool.paths[path]? = some found) :
    pool.Redials path ↔ found.stale pool.pathFailureThreshold = true := by
  have looked : pool.step .check = some (pool.checkPath path todo found) := by
    rw [step, looks]
    dsimp only
    rw [present, map_some]
  constructor
  · intro ⟨rest, next, closed, _, stepped, again, dialing⟩
    rw [looked] at stepped
    by_contra fresh
    rw [checkPath, if_neg fresh] at stepped
    cases stepped
    exact check_not_dialing rfl again dialing
  · intro stale
    rw [checkPath, if_pos stale] at looked
    refine ⟨todo, { pool with check := .closing path todo }, pool.closePath path todo found, looks,
      looked, ?_, rfl⟩
    rw [step]
    dsimp only
    rw [present]
    rfl

theorem step_threshold (stepped : pool.step event = some next) :
    next.pathFailureThreshold = pool.pathFailureThreshold := by
  cases step_effect stepped <;> rfl

/-- In every interleaving the health check dials a path that never had a connection exactly when the
threshold is one, a path that lost its connection to an earlier check unless a late success cleared
its failures, and a path with a dead connection exactly when its failures have reached the
threshold. -/
theorem redialed_iff (outcomes : List (GoString × Bool)) (pathFailureThreshold : Int)
    (events : List Event) (pool : MultipathPool)
    (ran : machine.run (new outcomes pathFailureThreshold) events = some pool)
    (path : Nat) (todo : List Nat) (looks : pool.check = .checking (path :: todo))
    (found : Path) (present : pool.paths[path]? = some found) :
    (found.dialed = false →
      found.conn = none ∧
        (pool.Redials path ↔ (new outcomes pathFailureThreshold).pathFailureThreshold ≤ 1)) ∧
      (machine.Never LateSuccess (new outcomes pathFailureThreshold) events →
        found.dialed = true → found.conn = none → pool.Redials path) ∧
      ∀ conn, found.conn = some conn → conn ∈ pool.dead →
        (pool.Redials path ↔
          (new outcomes pathFailureThreshold).pathFailureThreshold ≤ found.failures) := by
  have ⟨sound, timely⟩ := new_sound outcomes pathFailureThreshold
  have ⟨reached, same⟩ := machine.run_invariant
    (fun state => state.Sound ∧
      state.pathFailureThreshold = (new outcomes pathFailureThreshold).pathFailureThreshold)
    (fun holds stepped => ⟨holds.1.step stepped, (step_threshold stepped).trans holds.2⟩)
    events ⟨sound, rfl⟩ ran
  rw [redials_iff_stale looks present, Path.stale, decide_eq_true_eq, same]
  refine ⟨fun never => ?_, fun inTime once lost => ?_, fun conn _ _ => Iff.rfl⟩
  · have ⟨unconnected, once⟩ := reached.paths found (mem_of_getElem? present) never
    rw [once]
    exact ⟨unconnected, Iff.rfl⟩
  · have always := machine.always_of_never Timely
      (fun timely stepped allowed => timely.step stepped allowed) id events timely inTime
    have kept := always events [] pool (append_nil events).symm ran
    rw [← same]
    exact of_decide_eq_true (kept.paths found (mem_of_getElem? present) once lost)

/-- With a threshold of one the path whose first dial failed is dialed by the first health check. -/
theorem redialed_at_one :
    ∃ pool found, machine.run (new [(lit "h3", false)] 1) [.tick] = some pool ∧
      pool.check = .checking [0] ∧ pool.paths[0]? = some found ∧ found.dialed = false ∧
      pool.Redials 0 := by
  refine ⟨_, _, rfl, rfl, rfl, rfl, ?_⟩
  exact ((redialed_iff [(lit "h3", false)] 1 [.tick] _ rfl 0 [] rfl _ rfl).1 rfl).2.mpr (by decide)

def lateRun : List Event :=
  [.call, .pick 0 (some 0), .advance 0, .answer 0 true,
    .call, .pick 1 (some 0), .advance 1, .answer 1 false, .advance 1,
    .tick, .check, .check, .dialed false, .check, .advance 0, .tick]

/-- With the default threshold a path whose first dial failed is not dialed again; with a threshold
of one a late success has the same effect. -/
theorem paths_not_redialed :
    (∃ pool found, machine.run (new [(lit "h3", false)] 0) [.tick] = some pool ∧
      pool.check = .checking [0] ∧ pool.paths[0]? = some found ∧ found.conn = none ∧
      ¬pool.Redials 0) ∧
      ∃ pool found, machine.run (new [(lit "h3", true)] 1) lateRun = some pool ∧
        pool.check = .checking [0] ∧ pool.paths[0]? = some found ∧ found.conn = none ∧
        ¬pool.Redials 0 := by
  refine ⟨⟨_, _, rfl, rfl, rfl, rfl, ?_⟩, ⟨_, _, rfl, rfl, rfl, rfl, ?_⟩⟩ <;>
    exact fun redials => absurd ((redials_iff_stale rfl rfl).mp redials) (by decide)

end MultipathPool

end Shuttle.Multipath
