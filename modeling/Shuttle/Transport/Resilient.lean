import Mathlib.Algebra.Order.Ring.Int
import Shuttle.Lib.Lists
import Shuttle.Lib.Machine

/-!
# The resilient connection

`transport/resilient/resilient.go` replaces its inner connection when a stream cannot be opened on
it. Calls that saw the same connection fail queue up at one lock; the first dials, installs the new
connection and closes the old one. `Close` does not wait for the lock, so a dial that returns after
it installs a connection that nobody closes.
-/

namespace Shuttle.Resilient

open Shuttle.Lib List Option

inductive Call where
  /-- About to read the inner connection. -/
  | calling
  | opening (conn : Nat)
  /-- Waits for the reconnect lock after a connection failed. -/
  | waiting (stale : Nat)
  /-- Has the lock and is about to look whether the wrapper was closed. -/
  | locked (stale : Nat)
  /-- Is about to look whether the connection was replaced. -/
  | checked (stale : Nat)
  | dialing (left : Nat)
  | dialed (conn : Nat)
  /-- Installed a connection and is about to close the old one. -/
  | swapped (old conn : Nat)
  /-- Opening a stream on the connection after a reconnect. -/
  | reopening (conn : Nat)
  | returned
deriving DecidableEq, Repr

def Call.inside : Call → Bool
  | .locked _ | .checked _ | .dialing _ | .dialed _ | .swapped _ _ => true
  | _ => false

/-- The connection that a reconnect has in hand: one to install or one to close. -/
def Call.hand : Call → Option Nat
  | .dialed conn => some conn
  | .swapped old _ => some old
  | _ => none

inductive Answer where
  | stream
  | connectionError
  | otherError

/-- The wrapper with its calls; connections are numbered as they are made. -/
structure ResilientConn where
  inner : Nat
  closed : Bool
  /-- The call that has the reconnect lock. -/
  reconnectMu : Option Nat
  maxRetries : Nat
  made : Nat
  shut : List Nat
  replaced : List Nat
  calls : List Call

inductive Event where
  | call
  | advance (call : Nat)
  | answer (call : Nat) (answer : Answer)
  | dial (call : Nat) (ok : Bool)
  | cancel (call : Nat)
  | close

namespace ResilientConn

/-- A wrapper around a connection; no number of retries selects 5. -/
def wrap (maxRetries : Int) : ResilientConn where
  inner := 0
  closed := false
  reconnectMu := none
  maxRetries := if maxRetries ≤ 0 then 5 else maxRetries.toNat
  made := 1
  shut := []
  replaced := []
  calls := []

variable (rc : ResilientConn)

def setCall (call : Nat) (stage : Call) : ResilientConn :=
  { rc with calls := rc.calls.set call stage }

/-- A call goes on and gives the reconnect lock back. -/
def leave (call : Nat) (stage : Call) : ResilientConn :=
  { rc with calls := rc.calls.set call stage, reconnectMu := none }

/-- The next step of a call that waits for nobody but the locks. -/
def advance (call : Nat) : Call → Option ResilientConn
  | .calling => some (rc.setCall call (.opening rc.inner))
  | .waiting stale =>
    if rc.reconnectMu = none then
      some { rc.setCall call (.locked stale) with reconnectMu := some call }
    else none
  | .locked stale =>
    if rc.closed then some (rc.leave call .returned)
    else some (rc.setCall call (.checked stale))
  | .checked stale =>
    if rc.inner ≠ stale then some (rc.leave call (.reopening rc.inner))
    else some (rc.setCall call (.dialing rc.maxRetries))
  | .dialed conn =>
    some { rc.setCall call (.swapped rc.inner conn) with
      inner := conn
      replaced := rc.inner :: rc.replaced }
  | .swapped old conn =>
    some { rc.leave call (.reopening conn) with shut := old :: rc.shut }
  | _ => none

def step : Event → Option ResilientConn
  | .call => some { rc with calls := rc.calls ++ [.calling] }
  | .advance call => (rc.calls[call]?).bind fun stage => rc.advance call stage
  | .answer call answer =>
    match rc.calls[call]? with
    | some (.opening conn) =>
      match answer with
      | .connectionError => some (rc.setCall call (.waiting conn))
      | _ => some (rc.setCall call .returned)
    | some (.reopening _) => some (rc.setCall call .returned)
    | _ => none
  | .dial call ok =>
    match rc.calls[call]? with
    | some (.dialing (left + 1)) =>
      if ok then some { rc.setCall call (.dialed rc.made) with made := rc.made + 1 }
      else if left = 0 then some (rc.leave call .returned)
      else some (rc.setCall call (.dialing left))
    | _ => none
  | .cancel call =>
    match rc.calls[call]? with
    | some (.dialing left) =>
      if left < rc.maxRetries then some (rc.leave call .returned) else none
    | _ => none
  | .close => some { rc with closed := true, shut := rc.inner :: rc.shut }

def machine : Machine ResilientConn Event := ⟨step⟩

def Settled : Prop := ∀ call ∈ rc.calls, call = .returned

/-- A reconnect installs a connection after the wrapper was closed. -/
def LateSwap (event : Event) : Prop :=
  rc.closed = true ∧ ∃ call conn, event = .advance call ∧
    rc.calls[call]? = some (.dialed conn)

/-! ## What a step keeps -/

def Locked (calls : List Call) (holder : Option Nat) : Prop :=
  ∀ index, holder = some index ↔ (calls[index]?).any Call.inside = true

/-- Every connection made is the current one, closed, or in the hand of a reconnect. -/
def Owned : Prop :=
  ∀ conn < rc.made, conn = rc.inner ∨ conn ∈ rc.shut ∨ ∃ call ∈ rc.calls, call.hand = some conn

structure Sound (rc : ResilientConn) : Prop where
  locked : Locked rc.calls rc.reconnectMu
  owned : rc.Owned
  inner : rc.inner < rc.made ∧ rc.inner ∉ rc.replaced
  once : rc.replaced.Nodup
  made : ∀ conn, conn ∈ rc.replaced ∨ conn ∈ rc.shut → conn < rc.made
  fresh : ∀ conn, .dialed conn ∈ rc.calls →
    conn < rc.made ∧ conn ≠ rc.inner ∧ conn ∉ rc.replaced ∧ conn ∉ rc.shut
  handed : ∀ old conn, .swapped old conn ∈ rc.calls → old ∈ rc.replaced

inductive Effect (rc : ResilientConn) (event : Event) : ResilientConn → Prop where
  | called : Effect rc event { rc with calls := rc.calls ++ [.calling] }
  /-- A call goes on with nothing in hand, inside the lock or outside. -/
  | moved {call : Nat} {old stage : Call} (found : rc.calls[call]? = some old)
      (same : stage.inside = old.inside) (before : old.hand = none) (after : stage.hand = none) :
      Effect rc event (rc.setCall call stage)
  | entered {call : Nat} {stale : Nat} (found : rc.calls[call]? = some (.waiting stale))
      (free : rc.reconnectMu = none) :
      Effect rc event { rc.setCall call (.locked stale) with reconnectMu := some call }
  /-- A call gives the lock back with nothing in hand. -/
  | left {call : Nat} {old stage : Call} (found : rc.calls[call]? = some old)
      (inside : old.inside = true) (outside : stage.inside = false)
      (before : old.hand = none) (after : stage.hand = none) :
      Effect rc event (rc.leave call stage)
  | dialed {call left : Nat} (found : rc.calls[call]? = some (.dialing left)) :
      Effect rc event { rc.setCall call (.dialed rc.made) with made := rc.made + 1 }
  | swapped {call conn : Nat} (own : event = .advance call)
      (found : rc.calls[call]? = some (.dialed conn)) :
      Effect rc event { rc.setCall call (.swapped rc.inner conn) with
        inner := conn
        replaced := rc.inner :: rc.replaced }
  | retired {call old conn : Nat} (found : rc.calls[call]? = some (.swapped old conn)) :
      Effect rc event { rc.leave call (.reopening conn) with shut := old :: rc.shut }
  | closed (own : event = .close) :
      Effect rc event { rc with closed := true, shut := rc.inner :: rc.shut }

variable {rc next : ResilientConn}

section Lock

variable {calls : List Call} {holder : Option Nat} {index : Nat} {old stage : Call}

theorem Locked.at (locked : Locked calls holder) (found : calls[index]? = some old) :
    holder = some index ↔ old.inside = true := by
  rw [locked index, found, any_some]

theorem Locked.set {next : Option Nat} (locked : Locked calls holder)
    (found : calls[index]? = some old) (own : next = some index ↔ stage.inside = true)
    (rest : ∀ other, index ≠ other → (next = some other ↔ holder = some other)) :
    Locked (calls.set index stage) next := by
  have bound : index < calls.length := (List.getElem?_eq_some_iff.mp found).1
  intro other
  rw [List.getElem?_set]
  split
  · rename_i same
    exact same ▸ own
  · rename_i apart
    rw [rest other apart, locked other]

theorem Locked.stay (locked : Locked calls holder) (found : calls[index]? = some old)
    (same : stage.inside = old.inside) : Locked (calls.set index stage) holder :=
  locked.set found (same ▸ locked.at found) fun _ _ => Iff.rfl

theorem Locked.release (locked : Locked calls holder) (found : calls[index]? = some old)
    (inside : old.inside = true) (outside : stage.inside = false) :
    Locked (calls.set index stage) none := by
  refine locked.set found (by rw [outside]; exact iff_of_false nofun nofun) fun other apart => ?_
  rw [(locked.at found).mpr inside]
  exact iff_of_false nofun fun same => apart (some.inj same)

end Lock

theorem advance_effect {call : Nat} {stage : Call} (found : rc.calls[call]? = some stage)
    (advanced : rc.advance call stage = some next) : Effect rc (.advance call) next := by
  cases stage with
  | calling =>
    cases advanced
    exact .moved found rfl rfl rfl
  | waiting stale =>
    have ⟨free, same⟩ := ite_none_right_eq_some.mp advanced
    cases same
    exact .entered found free
  | locked stale | checked stale =>
    rw [advance] at advanced
    split at advanced <;> cases advanced
    · exact .left found rfl rfl rfl rfl
    · exact .moved found rfl rfl rfl
  | dialed conn =>
    cases advanced
    exact .swapped rfl found
  | swapped old conn =>
    cases advanced
    exact .retired found
  | opening | dialing | reopening | returned => cases advanced

theorem step_effect {event : Event} (stepped : rc.step event = some next) :
    Effect rc event next := by
  cases event with
  | call =>
    cases stepped
    exact .called
  | advance call =>
    have ⟨stage, found, advanced⟩ := bind_eq_some_iff.mp stepped
    exact advance_effect found advanced
  | answer call answer =>
    rw [step] at stepped
    split at stepped
    · rename_i found
      split at stepped
      all_goals
        cases stepped
        exact .moved found rfl rfl rfl
    · rename_i found
      cases stepped
      exact .moved found rfl rfl rfl
    · cases stepped
  | dial call ok =>
    rw [step] at stepped
    split at stepped
    · rename_i left found
      split at stepped
      · cases stepped
        exact .dialed found
      · split at stepped <;> cases stepped
        · exact .left found rfl rfl rfl rfl
        · exact .moved found rfl rfl rfl
    · cases stepped
  | cancel call =>
    rw [step] at stepped
    split at stepped
    · rename_i found
      have ⟨_, same⟩ := ite_none_right_eq_some.mp stepped
      cases same
      exact .left found rfl rfl rfl rfl
    · cases stepped
  | close =>
    cases stepped
    exact .closed rfl

theorem Owned.set {call : Nat} {old stage : Call} (owned : rc.Owned)
    (found : rc.calls[call]? = some old) (calls : next.calls = rc.calls.set call stage)
    (made : ∀ conn < next.made, conn < rc.made ∨ stage.hand = some conn)
    (inner : rc.inner = next.inner ∨ rc.inner ∈ next.shut ∨ stage.hand = some rc.inner)
    (shut : ∀ conn ∈ rc.shut, conn ∈ next.shut)
    (hand : ∀ conn, old.hand = some conn →
      conn = next.inner ∨ conn ∈ next.shut ∨ stage.hand = some conn) : next.Owned := by
  have bound : call < rc.calls.length := (List.getElem?_eq_some_iff.mp found).1
  have present : stage ∈ next.calls := calls ▸ mem_set bound stage
  have ofStage : ∀ conn, (conn = next.inner ∨ conn ∈ next.shut ∨ stage.hand = some conn) →
      conn = next.inner ∨ conn ∈ next.shut ∨ ∃ call ∈ next.calls, call.hand = some conn :=
    fun conn placed => placed.imp_right (Or.imp_right fun held => ⟨stage, present, held⟩)
  intro conn below
  rcases made conn below with older | held
  · rcases owned conn older with same | closed | ⟨other, listed, held⟩
    · exact ofStage conn (same ▸ inner)
    · exact .inr (.inl (shut conn closed))
    · rcases eq_or_mem_set found listed with rfl | kept
      · exact ofStage conn (hand conn held)
      · exact .inr (.inr ⟨other, calls ▸ kept, held⟩)
  · exact ofStage conn (.inr (.inr held))

theorem Sound.go {call : Nat} {old stage : Call} {holder : Option Nat} (sound : rc.Sound)
    (found : rc.calls[call]? = some old) (before : old.hand = none) (after : stage.hand = none)
    (locked : Locked (rc.calls.set call stage) holder) :
    Sound { rc with calls := rc.calls.set call stage, reconnectMu := holder } where
  locked := locked
  owned := by
    refine sound.owned.set found rfl (fun _ below => .inl below) (.inl rfl) (fun _ => id) ?_
    intro conn held
    rw [before] at held
    cases held
  inner := sound.inner
  once := sound.once
  made := sound.made
  fresh conn listed := by
    rcases mem_or_eq_of_mem_set listed with older | rfl
    · exact sound.fresh conn older
    · cases after
  handed old conn listed := by
    rcases mem_or_eq_of_mem_set listed with older | rfl
    · exact sound.handed old conn older
    · cases after

theorem Sound.dialed {call left : Nat} (sound : rc.Sound)
    (found : rc.calls[call]? = some (.dialing left)) :
    Sound { rc.setCall call (.dialed rc.made) with made := rc.made + 1 } where
  locked := sound.locked.stay found rfl
  owned := by
    refine sound.owned.set found rfl ?_ (.inl rfl) (fun _ => id) (nofun)
    intro conn below
    rcases Nat.lt_succ_iff_lt_or_eq.mp below with older | rfl
    · exact .inl older
    · exact .inr rfl
  inner := ⟨Nat.lt_succ_of_lt sound.inner.1, sound.inner.2⟩
  once := sound.once
  made conn known := Nat.lt_succ_of_lt (sound.made conn known)
  fresh conn listed := by
    rcases mem_or_eq_of_mem_set listed with older | new
    · have ⟨below, rest⟩ := sound.fresh conn older
      exact ⟨Nat.lt_succ_of_lt below, rest⟩
    · cases new
      have unknown : ¬rc.made < rc.made := Nat.lt_irrefl _
      exact ⟨Nat.lt_succ_self _, fun same => absurd sound.inner.1 (same ▸ unknown),
        fun held => unknown (sound.made _ (.inl held)),
        fun held => unknown (sound.made _ (.inr held))⟩
  handed old conn listed := by
    rcases mem_or_eq_of_mem_set listed with older | new
    · exact sound.handed old conn older
    · cases new

theorem Sound.inside_unique (sound : rc.Sound) {left right : Nat} {first second : Call}
    (foundFirst : rc.calls[left]? = some first) (foundSecond : rc.calls[right]? = some second)
    (insideFirst : first.inside = true) (insideSecond : second.inside = true) : left = right := by
  have holdsFirst := (sound.locked.at foundFirst).mpr insideFirst
  have holdsSecond := (sound.locked.at foundSecond).mpr insideSecond
  exact Option.some.inj (holdsFirst.symm.trans holdsSecond)

theorem Sound.only {call : Nat} {stage old other : Call} (sound : rc.Sound)
    (found : rc.calls[call]? = some old) (inside : old.inside = true)
    (listed : other ∈ rc.calls.set call stage) (otherInside : other.inside = true) :
    other = stage := by
  have ⟨index, at_⟩ := mem_iff_getElem?.mp listed
  rcases getElem?_set_cases at_ with ⟨_, same⟩ | ⟨apart, present⟩
  · exact same
  · exact absurd (sound.inside_unique present found otherInside inside) apart

theorem Sound.swapped {call conn : Nat} (sound : rc.Sound)
    (found : rc.calls[call]? = some (.dialed conn)) :
    Sound { rc.setCall call (.swapped rc.inner conn) with
      inner := conn
      replaced := rc.inner :: rc.replaced } := by
  have ⟨below, apart, unreplaced, _⟩ := sound.fresh conn (mem_of_getElem? found)
  exact {
    locked := sound.locked.stay found rfl
    owned := by
      refine sound.owned.set found rfl (fun _ below => .inl below) (.inr (.inr rfl))
        (fun _ => id) ?_
      intro held same
      exact .inl (Option.some.inj same).symm
    inner := by
      refine ⟨below, fun listed => ?_⟩
      rcases mem_cons.mp listed with same | older
      · exact apart same
      · exact unreplaced older
    once := nodup_cons.mpr ⟨sound.inner.2, sound.once⟩
    made := by
      intro other known
      rcases known with listed | closed
      · rcases mem_cons.mp listed with rfl | older
        · exact sound.inner.1
        · exact sound.made other (.inl older)
      · exact sound.made other (.inr closed)
    fresh := by
      intro other listed
      cases sound.only found rfl listed rfl
    handed := by
      intro old new listed
      cases sound.only found rfl listed rfl
      exact mem_cons_self }

theorem Sound.retired {call old conn : Nat} (sound : rc.Sound)
    (found : rc.calls[call]? = some (.swapped old conn)) :
    Sound { rc.leave call (.reopening conn) with shut := old :: rc.shut } where
  locked := sound.locked.release found rfl rfl
  owned := by
    refine sound.owned.set found rfl (fun _ below => .inl below) (.inl rfl)
      (fun _ => mem_cons_of_mem old) ?_
    intro held same
    exact .inr (.inl (Option.some.inj same ▸ mem_cons_self))
  inner := sound.inner
  once := sound.once
  made other known := by
    rcases known with listed | closed
    · exact sound.made other (.inl listed)
    · rcases mem_cons.mp closed with rfl | older
      · exact sound.made other (.inl (sound.handed other conn (mem_of_getElem? found)))
      · exact sound.made other (.inr older)
  fresh other listed := by
    cases sound.only found rfl listed rfl
  handed other new listed := by
    cases sound.only found rfl listed rfl

theorem Sound.close (sound : rc.Sound) :
    Sound { rc with closed := true, shut := rc.inner :: rc.shut } where
  locked := sound.locked
  owned conn below :=
    (sound.owned conn below).imp_right (Or.imp_left (mem_cons_of_mem rc.inner))
  inner := sound.inner
  once := sound.once
  made conn known := by
    rcases known with listed | closed
    · exact sound.made conn (.inl listed)
    · rcases mem_cons.mp closed with rfl | older
      · exact sound.inner.1
      · exact sound.made conn (.inr older)
  fresh conn listed := by
    have ⟨below, apart, unreplaced, unclosed⟩ := sound.fresh conn listed
    refine ⟨below, apart, unreplaced, fun closed => ?_⟩
    rcases mem_cons.mp closed with same | older
    · exact apart same
    · exact unclosed older
  handed := sound.handed

theorem Sound.call (sound : rc.Sound) : Sound { rc with calls := rc.calls ++ [.calling] } := by
  have old : ∀ {stage : Call}, stage ∈ rc.calls ++ [.calling] → stage ≠ .calling →
      stage ∈ rc.calls := by
    intro stage listed other
    rcases mem_append.mp listed with older | new
    · exact older
    · exact absurd (mem_singleton.mp new) other
  exact {
    locked := by
      intro index
      rw [sound.locked index, List.getElem?_append]
      split
      · rfl
      · rename_i beyond
        rw [List.getElem?_eq_none (Nat.le_of_not_lt beyond)]
        cases index - rc.calls.length <;> rfl
    owned := by
      intro conn below
      rcases sound.owned conn below with same | closed | ⟨stage, listed, held⟩
      · exact .inl same
      · exact .inr (.inl closed)
      · exact .inr (.inr ⟨stage, mem_append_left _ listed, held⟩)
    inner := sound.inner
    once := sound.once
    made := sound.made
    fresh := fun conn listed => sound.fresh conn (old listed nofun)
    handed := fun _ conn listed => sound.handed _ conn (old listed nofun) }

theorem Sound.step {event : Event} (sound : rc.Sound) (stepped : rc.step event = some next) :
    next.Sound := by
  cases step_effect stepped with
  | called => exact sound.call
  | moved found same before after =>
    exact sound.go found before after (sound.locked.stay found same)
  | entered found free =>
    refine sound.go found rfl rfl (sound.locked.set found (by simp [Call.inside]) ?_)
    intro other apart
    rw [free]
    exact iff_of_false (fun same => apart (some.inj same)) nofun
  | left found inside outside before after =>
    exact sound.go found before after (sound.locked.release found inside outside)
  | dialed found => exact sound.dialed found
  | swapped _ found => exact sound.swapped found
  | retired found => exact sound.retired found
  | closed => exact sound.close

theorem wrap_sound (maxRetries : Int) : (wrap maxRetries).Sound where
  locked _ := ⟨nofun, nofun⟩
  owned _ below := .inl (Nat.lt_one_iff.mp below)
  inner := ⟨Nat.one_pos, not_mem_nil⟩
  once := nodup_nil
  made _ known := known.elim nofun nofun
  fresh := nofun
  handed := nofun

theorem run_sound {maxRetries : Int} {events : List Event} {state : ResilientConn}
    (ran : machine.run (wrap maxRetries) events = some state) : state.Sound :=
  Machine.run_invariant Sound Sound.step events (wrap_sound maxRetries) ran

/-! ## After the last `Close` -/

theorem late_swap_opens {event : Event} (sound : rc.Sound) (late : rc.LateSwap event)
    (stepped : rc.step event = some next) : next.inner ∉ next.shut := by
  have ⟨_, call, conn, own, found⟩ := late
  subst own
  have ⟨stage, present, advanced⟩ := bind_eq_some_iff.mp stepped
  cases Option.some.inj (found.symm.trans present)
  cases advanced
  exact (sound.fresh conn (mem_of_getElem? found)).2.2.2

theorem close_not_late : ¬rc.LateSwap .close :=
  fun ⟨_, _, _, own, _⟩ => nomatch own

theorem step_closed {event : Event} (closed : rc.closed = true)
    (stepped : rc.step event = some next) : next.closed = true := by
  cases step_effect stepped with
  | closed => rfl
  | called | moved | entered | left | dialed | swapped | retired => exact closed

theorem step_released_iff {event : Event} (sound : rc.Sound) (closed : rc.closed = true)
    (other : event ≠ .close) (stepped : rc.step event = some next) :
    next.inner ∈ next.shut ↔ rc.inner ∈ rc.shut ∧ ¬rc.LateSwap event := by
  by_cases late : rc.LateSwap event
  · have opened := late_swap_opens sound late stepped
    exact ⟨fun released => absurd released opened, fun ⟨_, calm⟩ => absurd late calm⟩
  · cases step_effect stepped with
    | called | moved | entered | left | dialed =>
      exact ⟨fun released => ⟨released, late⟩, And.left⟩
    | swapped own found => exact absurd ⟨closed, _, _, own, found⟩ late
    | @retired _ old conn found =>
      have apart : rc.inner ≠ old := by
        intro same
        apply sound.inner.2
        exact same ▸ sound.handed old conn (mem_of_getElem? found)
      exact ⟨fun released => ⟨mem_of_ne_of_mem apart released, late⟩,
        fun ⟨released, _⟩ => mem_cons_of_mem old released⟩
    | closed own => exact absurd own other

theorem run_released_iff {events : List Event} {final : ResilientConn} (sound : rc.Sound)
    (closed : rc.closed = true) (noClose : .close ∉ events)
    (ran : machine.run rc events = some final) :
    final.inner ∈ final.shut ↔ rc.inner ∈ rc.shut ∧ machine.Never LateSwap rc events := by
  refine Machine.run_iff_never (fun rc => rc.Sound ∧ rc.closed = true) (· ≠ .close)
    (fun kept stepped => ⟨kept.1.step stepped, step_closed kept.2 stepped⟩)
    (fun kept other stepped => step_released_iff kept.1 kept.2 other stepped)
    events ⟨sound, closed⟩ ?_ ran
  intro event listed same
  exact noClose (same ▸ listed)

theorem Sound.released_iff (sound : rc.Sound) (settled : rc.Settled) :
    (∀ conn < rc.made, conn ∈ rc.shut) ↔ rc.inner ∈ rc.shut := by
  refine ⟨fun all => all rc.inner sound.inner.1, fun released conn below => ?_⟩
  rcases sound.owned conn below with same | closed | ⟨call, listed, held⟩
  · exact same ▸ released
  · exact closed
  · rw [settled call listed] at held
    cases held

/-- In every interleaving a connection is replaced once at most, by one call at a time. When `Close`
ran for the last time and all calls returned, all connections are closed exactly if no connection
was installed after that `Close`. -/
theorem released_iff_no_late_swap (maxRetries : Int) (events : List Event) (state : ResilientConn)
    (ran : machine.run (wrap maxRetries) events = some state) :
    state.replaced.Nodup ∧
      (∀ (first second : Nat) (left right : Call), state.calls[first]? = some left →
        state.calls[second]? = some right → left.inside = true → right.inside = true →
        first = second) ∧
      (∀ conn < state.made, conn = state.inner ∨ conn ∈ state.shut ∨
        ∃ call ∈ state.calls, call.hand = some conn) ∧
      (∀ before after middle, events = before ++ .close :: after → .close ∉ after →
        machine.run (wrap maxRetries) before = some middle → state.Settled →
        ((∀ conn < state.made, conn ∈ state.shut) ↔
          machine.Never LateSwap middle (.close :: after))) := by
  have sound := run_sound ran
  refine ⟨sound.once, fun _ _ _ _ => sound.inside_unique, sound.owned, ?_⟩
  intro before after middle parts noClose reached settled
  have closing : machine.run middle (.close :: after) = some state := by
    rw [← Machine.run_append before _ reached, ← parts, ran]
  have ⟨next, stepped, later⟩ := Machine.run_cons_some closing
  have closed : machine.step middle .close = some { middle with
      closed := true, shut := middle.inner :: middle.shut } := rfl
  cases closed.symm.trans stepped
  rw [sound.released_iff settled,
    run_released_iff (run_sound reached).close rfl noClose later, Machine.never_cons_iff]
  constructor
  · intro ⟨_, never⟩ _ same
    cases closed.symm.trans same
    exact ⟨close_not_late, never⟩
  · intro never
    exact ⟨mem_cons_self, (never _ closed).2⟩

/-- A call reconnects, and `Close` comes after it. -/
def calmEvents : List Event :=
  [.call, .advance 0, .answer 0 .connectionError, .advance 0, .advance 0, .advance 0, .dial 0 true,
    .advance 0, .advance 0, .answer 0 .stream]

theorem closed_after_reconnect : ∃ state,
    machine.run (wrap 1) (calmEvents ++ [.close]) = some state ∧ state.made = 2 ∧
      ∀ conn < state.made, conn ∈ state.shut := by
  have released := (released_iff_no_late_swap 1 (calmEvents ++ [.close]) _ rfl).2.2.2 calmEvents []
    _ rfl not_mem_nil rfl fun call listed => mem_singleton.mp listed
  refine ⟨_, rfl, rfl, released.mpr ?_⟩
  exact Machine.never_cons_iff.mpr fun _ _ => ⟨close_not_late, Machine.never_nil⟩

/-- A call dials while `Close` runs, and installs its connection afterwards. -/
def lateEvents : List Event :=
  [.call, .advance 0, .answer 0 .connectionError, .advance 0, .advance 0, .advance 0, .close,
    .dial 0 true, .advance 0, .advance 0, .answer 0 .stream]

/-- A wrapper that was closed is left with an open connection. -/
theorem closed_wrapper_leaks : ∃ state, machine.run (wrap 1) lateEvents = some state ∧
    state.closed = true ∧ state.Settled ∧ ∃ conn < state.made, conn ∉ state.shut := by
  refine ⟨_, rfl, rfl, fun call listed => mem_singleton.mp listed, 1, Nat.one_lt_two, ?_⟩
  decide

end ResilientConn

/-! ## The back-off

The base delay is shifted in 64 bits and capped afterwards; the cap does not notice an overflow.
-/

/-- Delays in nanoseconds. -/
structure Config where
  maxRetries : Int64
  baseDelay : Int64
  maxDelay : Int64

def Config.withDefaults (config : Config) : Config where
  maxRetries := if config.maxRetries ≤ 0 then 5 else config.maxRetries
  baseDelay := if config.baseDelay ≤ 0 then 500000000 else config.baseDelay
  maxDelay := if config.maxDelay ≤ 0 then 30000000000 else config.maxDelay

/-- The delay before an attempt, without jitter. A shift by the width or more gives zero. -/
def Config.delay (config : Config) (attempt : Nat) : Int64 :=
  let delay := Int64.ofInt (config.baseDelay.toInt * 2 ^ (attempt - 1))
  if config.maxDelay < delay then config.maxDelay else delay

theorem withDefaults_positive (config : Config) :
    0 < config.withDefaults.baseDelay.toInt ∧ 0 < config.withDefaults.maxDelay.toInt := by
  have positive {value fallback : Int64} (fits : 0 < fallback.toInt) :
      0 < (if value ≤ 0 then fallback else value).toInt := by
    split
    · exact fits
    · exact Int64.lt_iff_toInt_lt.mp (Int64.not_le.mp ‹_›)
  exact ⟨positive (by decide), positive (by decide)⟩

theorem delay_toInt (config : Config) (attempt : Nat) :
    (config.delay attempt).toInt = min config.maxDelay.toInt
      ((config.baseDelay.toInt * 2 ^ (attempt - 1)).bmod (2 ^ 64)) := by
  have shifted : (Int64.ofInt (config.baseDelay.toInt * 2 ^ (attempt - 1))).toInt =
      (config.baseDelay.toInt * 2 ^ (attempt - 1)).bmod (2 ^ 64) := Int64.toInt_ofInt
  rw [Config.delay, ← shifted]
  split <;> rename_i order <;> rw [Int64.lt_iff_toInt_lt] at order <;> omega

/-- The delays are positive, at most the maximum and do not decrease, exactly if none of the shifts
overflows. -/
theorem backoff_lawful_iff (config : Config) :
    let used := config.withDefaults
    (∀ k : Nat, 1 ≤ k → k < used.maxRetries.toInt →
      0 < used.delay k ∧ used.delay k ≤ used.maxDelay ∧
      ∀ j : Nat, 1 ≤ j → j ≤ k → used.delay j ≤ used.delay k) ↔
    ∀ k : Nat, 1 ≤ k → k < used.maxRetries.toInt →
      used.baseDelay.toInt * 2 ^ (k - 1) < 2 ^ 63 := by
  have ⟨base, limit⟩ := withDefaults_positive config
  generalize config.withDefaults = config at *
  simp only [Int64.lt_iff_toInt_lt, Int64.le_iff_toInt_le, delay_toInt]
  have positive (k : Nat) : 0 < config.baseDelay.toInt * 2 ^ k :=
    Int.mul_pos base (Int.pow_pos (by decide))
  have fits {value : Int} (above : 0 < value) (below : value < 2 ^ 63) :
      value.bmod (2 ^ 64) = value := Int.bmod_eq_of_le (by omega) (by omega)
  constructor
  · intro lawful k
    induction k with
    | zero => exact nofun
    | succ k ih =>
      intro _ below
      cases k with
      | zero => simpa using config.baseDelay.toInt_lt
      | succ k =>
        have before : config.baseDelay.toInt * 2 ^ k < 2 ^ 63 := ih (by omega) (by omega)
        have above : 0 < min _ ((config.baseDelay.toInt * 2 ^ (k + 1)).bmod (2 ^ 64)) :=
          (lawful (k + 2) (by omega) below).1
        show config.baseDelay.toInt * 2 ^ (k + 1) < 2 ^ 63
        rw [pow_succ, ← Int.mul_assoc, Int.bmod] at above
        rw [pow_succ, ← Int.mul_assoc]
        omega
  · intro small k one below
    have shifted := positive (k - 1)
    rw [fits shifted (small k one below)]
    refine ⟨?_, by omega, fun j first least => ?_⟩
    · show 0 < _
      omega
    · rw [fits (positive _) (small j first (by omega))]
      have grows : (2 : Int) ^ (j - 1) ≤ 2 ^ (k - 1) := by
        gcongr
        omega
      have := Int.mul_le_mul_of_nonneg_left grows (Int.le_of_lt base)
      omega

/-- With the default delays the 36th attempt waits for a negative time. -/
theorem shifted_delay_negative :
    (Config.withDefaults ⟨40, 0, 0⟩).delay 36 = -1266874889709551616 := by
  decide

end Shuttle.Resilient
