import Shuttle.Lib.Lists
import Shuttle.Transport.Selector

/-!
# Which connections a dial returns

Every call of `Dial` is followed by what its stage has established, and every step of the selector
keeps that. The pool dials the first transport and hands its connections out untracked, so a run has
a dial that returned a connection of another transport than the active one, or one that no migration
drains, exactly if the pool served a dial in one of its steps.
-/

namespace Shuttle.Selector

open Shuttle.Go Shuttle.Lib List Option Migrator

section Invariant

variable {τ : Type}

/-- A connection of this transport may be returned: it was active at the call, or it failed in the
call, or none was active. -/
def Dial.Allows (dial : Dial τ) (transport : τ) : Prop :=
  ∀ active, dial.active = some active → transport = active ∨ dial.activeFailed = true

def Dial.Sound (config : Config τ) (made : List (Made τ)) (conns : List Nat) (dial : Dial τ) :
    Prop :=
  match dial.stage with
  | .pool | .poolDial => config.Pools
  | .dialing active => dial.active = some active
  | .migrating _ => dial.activeFailed = true
  | .trying _ _ _ => ∀ transport, dial.Allows transport
  | .choosing _ transport conn | .tracking transport conn =>
    made[conn]? = some ⟨transport, .selector⟩ ∧ dial.Allows transport
  | .returned (.raw conn) =>
    config.Pools ∧ ∃ first, config.transports.head? = some first ∧ made[conn]? = some ⟨first, .pool⟩
  | .returned (.migrated wrapper) =>
    ∃ conn transport, conns[wrapper]? = some conn ∧ made[conn]? = some ⟨transport, .selector⟩ ∧
      dial.Allows transport
  | .failed => True

theorem Dial.Sound.mono {config : Config τ} {made made' : List (Made τ)} {conns conns' : List Nat}
    {dial : Dial τ} (sound : dial.Sound config made conns) (more : Kept made made')
    (wrapped : Kept conns conns') : dial.Sound config made' conns' := by
  unfold Dial.Sound at sound ⊢
  split at sound
  · exact sound
  · exact sound
  · exact sound
  · exact sound
  · exact sound
  · exact ⟨more _ _ sound.1, sound.2⟩
  · exact ⟨more _ _ sound.1, sound.2⟩
  · have ⟨pools, first, head, present⟩ := sound
    exact ⟨pools, first, head, more _ _ present⟩
  · have ⟨conn, transport, present, isMade, allows⟩ := sound
    exact ⟨conn, transport, wrapped _ _ present, more _ _ isMade, allows⟩
  · trivial

structure Sound (config : Config τ) (state : State τ) : Prop where
  pool : ∀ pool, state.pool = some pool → config.Pools ∧
    ∃ first, config.transports.head? = some first ∧
      pool.Holds first fun conn => state.made[conn]? = some ⟨first, .pool⟩
  attached : state.attached = true → config.Pools
  tracked : ∀ conn ∈ state.migrator.conns, ∃ transport,
    state.made[conn]? = some ⟨transport, .selector⟩
  listed : state.migrator.Listed
  dials : ∀ dial ∈ state.dials, dial.Sound config state.made state.migrator.conns

namespace Sound

variable {config : Config τ} {state : State τ}

section

variable (sound : Sound config state)

include sound

theorem connect (transport : τ) (origin : Origin) :
    Sound config (connect state transport origin) where
  pool := fun pool present => by
    have ⟨pools, first, head, holds⟩ := sound.pool pool present
    exact ⟨pools, first, head, holds.mono fun conn => Kept.append _ _ conn _⟩
  attached := sound.attached
  tracked := fun conn present => by
    have ⟨other, isMade⟩ := sound.tracked conn present
    exact ⟨other, Kept.append _ _ conn _ isMade⟩
  listed := sound.listed
  dials := fun dial present => (sound.dials dial present).mono (Kept.append _ _) (Kept.refl _)

theorem frame {strategy : Strategy} {probes : GoMap GoString (ProbeResult τ)} {active : Option τ}
    {started : Bool} {warming : Nat} :
    Sound config { state with
      strategy := strategy, probes := probes, active := active, started := started,
      warming := warming } :=
  ⟨sound.pool, sound.attached, sound.tracked, sound.listed, sound.dials⟩

theorem migrator {next : Migrator} (keeps : Migrator.Keeps state.migrator next) :
    Sound config { state with migrator := next } where
  pool := sound.pool
  attached := sound.attached
  tracked := fun conn present => sound.tracked conn (keeps.conns ▸ present)
  listed := keeps.listed sound.listed
  dials := fun dial present =>
    (sound.dials dial present).mono (Kept.refl _) (keeps.conns ▸ Kept.refl _)

theorem migratorStep {next : Migrator} (keeps : Migrator.Keeps state.migrator next) :
    Sound config { state with migrator := next } ∧ Kept state.migrator.conns next.conns :=
  ⟨sound.migrator keeps, keeps.conns ▸ Kept.refl _⟩

theorem track {conn : Nat} {transport : τ}
    (isMade : state.made[conn]? = some ⟨transport, .selector⟩) (name : GoString) :
    Sound config { state with migrator := state.migrator.track conn name } where
  pool := sound.pool
  attached := sound.attached
  tracked := fun other present => by
    rw [conns_track] at present
    rcases mem_append.mp present with old | new
    · exact sound.tracked other old
    · rw [mem_singleton.mp new]
      exact ⟨transport, isMade⟩
  listed := track_listed sound.listed conn name
  dials := fun dial present =>
    (sound.dials dial present).mono (Kept.refl _) (conns_track conn name ▸ Kept.append _ _)

theorem setPool {next : ConnPool τ}
    (holds : config.Pools ∧ ∃ first, config.transports.head? = some first ∧
      next.Holds first fun conn => state.made[conn]? = some ⟨first, .pool⟩) :
    Sound config { state with pool := some next } where
  pool := fun _ present => Option.some.inj present ▸ holds
  attached := sound.attached
  tracked := sound.tracked
  listed := sound.listed
  dials := sound.dials

theorem mapPool {change : ConnPool τ → ConnPool τ}
    (keeps : ∀ {pool : ConnPool τ} {first : τ} {property : Nat → Prop},
      pool.Holds first property → (change pool).Holds first property) :
    Sound config { state with pool := state.pool.map change } where
  pool := fun pool present => by
    have ⟨before, had, same⟩ := map_eq_some_iff.mp present
    have ⟨pools, first, head, holds⟩ := sound.pool before had
    exact ⟨pools, first, head, same ▸ keeps holds⟩
  attached := sound.attached
  tracked := sound.tracked
  listed := sound.listed
  dials := sound.dials

theorem setDials {dials : List (Dial τ)} (each : ∀ dial ∈ dials, dial ∈ state.dials ∨
      dial.Sound config state.made state.migrator.conns) :
    Sound config { state with dials := dials } where
  pool := sound.pool
  attached := sound.attached
  tracked := sound.tracked
  listed := sound.listed
  dials := fun dial present => (each dial present).elim (sound.dials dial) id

end

end Sound

variable {config : Config τ} {state next : State τ} {dial dial' : Dial τ}

theorem tryFrom_sound (free : ∀ transport, dial.Allows transport) (loop : Loop)
    (transports : List τ) (made : List (Made τ)) (conns : List Nat) :
    { dial with stage := tryFrom loop transports }.Sound config made conns := by
  cases transports with
  | nil => trivial
  | cons first rest => exact free

theorem withoutPool_sound (made : List (Made τ)) (conns : List Nat) :
    (withoutPool config dial).Sound config made conns := by
  unfold withoutPool
  split
  · rename_i inactive
    have free : ∀ transport, dial.Allows transport :=
      fun _ _ isActive => absurd (inactive.symm.trans isActive) nofun
    exact tryFrom_sound free _ _ _ _
  · assumption

structure Advances (config : Config τ) (state next : State τ) (dial : Dial τ) : Prop where
  sound : Sound config next
  dials : next.dials = state.dials
  dial : dial.Sound config next.made next.migrator.conns
  conns : Kept state.migrator.conns next.migrator.conns

section

variable (sound : Sound config state)

include sound

theorem askPool_advances {now : Int} (asked : askPool config state dial now = some (next, dial')) :
    Advances config state next dial' := by
  unfold askPool at asked
  split at asked
  · cases asked
  rename_i pool present
  have ⟨pools, first, head, holds⟩ := sound.pool pool present
  have ⟨found, left⟩ := holds.take now
  split at asked
  · cases asked
    exact ⟨sound, rfl, withoutPool_sound _ _, Kept.refl _⟩
  · split at asked
    · rename_i conn rest taken
      rw [taken] at found left
      cases asked
      exact ⟨sound.setPool ⟨pools, first, head, left⟩, rfl, ⟨pools, first, head, found conn rfl⟩,
        Kept.refl _⟩
    · rename_i rest taken
      rw [taken] at left
      cases asked
      exact ⟨sound.setPool ⟨pools, first, head, left⟩, rfl, pools, Kept.refl _⟩

theorem dialReturns_advances
    (dialSound : dial.Sound config state.made state.migrator.conns) {ok : Bool}
    (returned : dialReturns config state dial ok = some (next, dial')) :
    Advances config state next dial' := by
  unfold dialReturns at returned
  unfold Dial.Sound at dialSound
  split at returned
  · -- The pool dialed the first transport.
    split at returned
    · cases returned
    · rename_i pool present
      have ⟨pools, first, head, holds⟩ := sound.pool pool present
      split at returned <;> cases returned
      · refine ⟨sound.connect _ _, rfl, ⟨pools, first, head, ?_⟩, Kept.refl _⟩
        rw [holds.transport]
        exact List.getElem?_concat_length
      · exact ⟨sound, rfl, withoutPool_sound _ _, Kept.refl _⟩
  · rename_i active stage
    rw [stage] at dialSound
    split at returned <;> cases returned
    · refine ⟨sound.connect _ _, rfl,
        ⟨List.getElem?_concat_length, fun other isActive => .inl ?_⟩, Kept.refl _⟩
      exact Option.some.inj (dialSound.symm.trans isActive)
    · exact ⟨sound, rfl, rfl, Kept.refl _⟩
  · rename_i loop transport rest stage
    rw [stage] at dialSound
    split at returned <;> cases returned
    · exact ⟨sound.connect _ _, rfl, ⟨List.getElem?_concat_length, dialSound transport⟩,
        Kept.refl _⟩
    · exact ⟨sound, rfl, tryFrom_sound dialSound _ _ _ _, Kept.refl _⟩
  · cases returned

theorem proceed_advances (dialSound : dial.Sound config state.made state.migrator.conns) {now : Int}
    (proceeded : proceed config state dial now = some (next, dial')) :
    Advances config state next dial' := by
  unfold proceed at proceeded
  unfold Dial.Sound at dialSound
  split at proceeded
  · rename_i active stage
    rw [stage] at dialSound
    cases proceeded
    have ⟨kept, conns⟩ := sound.migratorStep (migrate_keeps now)
    exact ⟨kept, rfl, tryFrom_sound (fun _ _ _ => .inr dialSound) _ _ _ _, conns⟩
  · rename_i loop transport conn stage
    rw [stage] at dialSound
    cases proceeded
    exact ⟨sound.frame, rfl, dialSound, Kept.refl _⟩
  · rename_i transport conn stage
    rw [stage] at dialSound
    cases proceeded
    have added := @Migrator.conns_track state.migrator conn (config.typeOf transport)
    refine ⟨sound.track dialSound.1 _, rfl, ⟨conn, transport, ?_, dialSound⟩, ?_⟩
    · have numbered : state.migrator.conns.length = state.migrator.tracked.length :=
        length_map _
      rw [added, ← numbered]
      exact List.getElem?_concat_length
    · rw [added]
      exact Kept.append _ _
  · cases proceeded

theorem advance_advances
    (dialSound : dial.Sound config state.made state.migrator.conns) {event : DialEvent}
    (advanced : advance config state dial event = some (next, dial')) :
    Advances config state next dial' := by
  cases event with
  | get now =>
    rw [advance] at advanced
    split at advanced
    · exact askPool_advances sound advanced
    · cases advanced
  | dialed ok => exact dialReturns_advances sound dialSound advanced
  | proceed now => exact proceed_advances sound dialSound advanced

theorem warmUp_sound {ok : Bool} {now : Int} (warmed : warmUp state ok now = some next) :
    Sound config next ∧ next.migrator = state.migrator := by
  unfold warmUp at warmed
  split at warmed
  · rename_i left pool _ present
    have ⟨pools, first, head, holds⟩ := sound.pool pool present
    split at warmed <;> cases warmed
    · have connected := sound.connect pool.transport .pool
      have ⟨_, other, otherHead, grown⟩ := connected.pool pool present
      have same := Option.some.inj (otherHead.symm.trans head)
      have put := connected.setPool ⟨pools, other, otherHead, grown.put
        (by rw [same, holds.transport]; exact List.getElem?_concat_length) now⟩
      exact ⟨put.frame, rfl⟩
    · exact ⟨sound.frame, rfl⟩
  · cases warmed

theorem start_sound :
    Sound config (start config state) ∧ (start config state).migrator = state.migrator := by
  unfold start
  split
  · exact ⟨sound.frame, rfl⟩
  rename_i first rest transports
  split
  · rename_i configured
    have pools : config.Pools := ⟨configured.1, by rw [transports]; exact nofun, configured.2⟩
    refine ⟨⟨fun pool present => ?_, fun _ => pools, sound.tracked, sound.listed, sound.dials⟩, rfl⟩
    refine ⟨pools, first, by rw [transports]; rfl, ?_⟩
    exact Option.some.inj present ▸ ConnPool.new_holds _ _
  · exact ⟨sound.frame, rfl⟩

theorem maybeSwitch_sound (order : List GoString) (now : Int) :
    Sound config (maybeSwitch config state order now) ∧
      (maybeSwitch config state order now).migrator.conns = state.migrator.conns := by
  unfold maybeSwitch
  split
  · exact ⟨sound, rfl⟩
  split
  · exact ⟨sound, rfl⟩
  · have keeps := @Migrator.migrate_keeps state.migrator now
    exact ⟨(sound.migrator keeps).frame, keeps.conns⟩

end

/-! ## Dials that the pool serves -/

/-- The pool serves a call of `Dial` in this step: it has a connection that did not expire, or
dialed one for the call. -/
def PoolServes (state : State τ) : Event τ → Prop
  | .advance i event => ∃ dial pool, state.dials[i]? = some dial ∧ state.pool = some pool ∧
      match event with
      | .get now => dial.stage = .pool ∧ pool.closed = false ∧
          ∃ idle ∈ pool.idle, pool.expired now idle = false
      | .dialed ok => dial.stage = .poolDial ∧ ok = true
      | .proceed _ => False
  | _ => False

/-- No call returned a connection that is not tracked. -/
def AllTracked (state : State τ) : Prop :=
  ∀ dial ∈ state.dials, ∀ conn, dial.stage ≠ .returned (.raw conn)

def Stage.isRaw : Stage τ → Bool
  | .returned (.raw _) => true
  | _ => false

theorem allTracked_iff : AllTracked state ↔ ∀ dial ∈ state.dials, dial.stage.isRaw = false := by
  refine forall₂_congr fun dial _ => ?_
  cases dial.stage with
  | returned result => cases result <;> simp [Stage.isRaw]
  | _ => simp [Stage.isRaw]

theorem tryFrom_isRaw (loop : Loop) (transports : List τ) :
    (tryFrom loop transports).isRaw = false := by
  cases transports <;> rfl

theorem withoutPool_isRaw : (withoutPool config dial).stage.isRaw = false := by
  unfold withoutPool
  split
  · exact tryFrom_isRaw _ _
  · rfl

/-- A call goes on to an untracked connection exactly if the pool serves it. -/
theorem advance_isRaw_iff {i : Nat} {event : DialEvent} (found : state.dials[i]? = some dial)
    (advanced : advance config state dial event = some (next, dial')) :
    dial'.stage.isRaw = true ↔ PoolServes state (.advance i event) := by
  cases event with
  | get now =>
    simp only [PoolServes, found, Option.some.injEq, exists_and_left, exists_eq_left']
    rw [advance] at advanced
    split at advanced
    · rename_i stage
      unfold askPool at advanced
      split at advanced
      · cases advanced
      rename_i pool present
      have idle := @ConnPool.popIdle_isSome_iff τ pool now pool.idle.reverse
      simp only [mem_reverse] at idle
      simp only [present, Option.some.injEq, exists_eq_left', stage, true_and, ← idle]
      split at advanced
      · rename_i closed
        cases advanced
        simp [withoutPool_isRaw, closed]
      · rename_i closed
        split at advanced <;> rename_i taken <;> cases advanced
        all_goals
          have popped := congrArg (fun pair => pair.1.isSome) taken
          simp only [ConnPool.take] at popped
          simp [Stage.isRaw, popped, closed]
    · cases advanced
  | dialed ok =>
    simp only [PoolServes, found, Option.some.injEq, exists_and_left, exists_eq_left']
    simp only [advance, dialReturns] at advanced
    split at advanced
    · rename_i stage
      split at advanced
      · cases advanced
      rename_i pool present
      split at advanced <;> rename_i ok <;> cases advanced
      · simp [Stage.isRaw, present, stage, ok]
      · simp [withoutPool_isRaw, ok]
    all_goals rename_i stage
    · split at advanced <;> cases advanced <;> simp [Stage.isRaw, stage]
    · split at advanced <;> cases advanced
      · simp [Stage.isRaw, stage]
      · rw [tryFrom_isRaw]
        simp [stage]
    · cases advanced
  | proceed now =>
    simp only [PoolServes, and_false, exists_false, iff_false, Bool.not_eq_true]
    simp only [advance, proceed] at advanced
    split at advanced <;> cases advanced
    · exact tryFrom_isRaw _ _
    · rfl
    · rfl

/-! ## Whole runs -/

theorem new_sound : Sound config (new config) where
  pool := nofun
  attached := nofun
  tracked := nofun
  listed := new_listed _
  dials := nofun

variable [DecidableEq τ]

theorem step_sound (sound : Sound config state) {event : Event τ}
    (stepped : step config state event = some next) :
    Sound config next ∧ Kept state.migrator.conns next.migrator.conns := by
  cases event with
  | start =>
    have ⟨_, next⟩ := ite_none_left_eq_some.mp stepped
    cases next
    have ⟨started, same⟩ := start_sound sound
    exact ⟨started, same ▸ Kept.refl _⟩
  | warmUp ok now =>
    have ⟨warmed, same⟩ := warmUp_sound sound stepped
    exact ⟨warmed, same ▸ Kept.refl _⟩
  | evict now =>
    cases stepped
    exact ⟨sound.mapPool fun holds => holds.evictExpired now, Kept.refl _⟩
  | probed result =>
    have ⟨_, next⟩ := ite_none_right_eq_some.mp stepped
    cases next
    exact ⟨sound.frame, Kept.refl _⟩
  | maybeSwitch order now =>
    have ⟨_, next⟩ := ite_none_right_eq_some.mp stepped
    cases next
    have ⟨switched, same⟩ := maybeSwitch_sound sound order now
    exact ⟨switched, same ▸ Kept.refl _⟩
  | setStrategy strategy =>
    cases stepped
    exact ⟨sound.frame, Kept.refl _⟩
  | dial =>
    cases stepped
    refine ⟨sound.setDials fun dial present => ?_, Kept.refl _⟩
    rcases mem_append.mp present with old | new
    · exact .inl old
    rw [mem_singleton.mp new, beginDial]
    split
    · rename_i attached
      exact .inr (sound.attached attached)
    · exact .inr (withoutPool_sound _ _)
  | advance i event =>
    rw [step] at stepped
    split at stepped
    · cases stepped
    rename_i dial found
    have ⟨⟨reached, dial'⟩, advanced, same⟩ := map_eq_some_iff.mp stepped
    cases same
    have dialSound := sound.dials dial (mem_of_getElem? found)
    have advances := advance_advances sound dialSound advanced
    refine ⟨advances.sound.setDials fun other present => ?_, advances.conns⟩
    rcases mem_or_eq_of_mem_set present with old | new
    · exact .inl old
    · exact .inr (new ▸ advances.dial)
  | migrate now =>
    cases stepped
    exact sound.migratorStep (migrate_keeps now)
  | drainIdle now =>
    cases stepped
    exact sound.migratorStep (drainIdle_keeps now)
  | wrapStream wrapper =>
    have ⟨migrator, wrapped, same⟩ := map_eq_some_iff.mp stepped
    cases same
    exact sound.migratorStep (wrapStream_keeps wrapped)
  | closeStream wrapper =>
    have ⟨migrator, closed, same⟩ := map_eq_some_iff.mp stepped
    cases same
    exact sound.migratorStep (closeStream_keeps closed)
  | redialed transport =>
    have ⟨_, next⟩ := ite_none_right_eq_some.mp stepped
    cases next
    refine ⟨(sound.connect transport .selector).track List.getElem?_concat_length _, ?_⟩
    rw [conns_track]
    exact Kept.append _ _
  | detachPool =>
    cases stepped
    exact ⟨⟨sound.pool, nofun, sound.tracked, sound.listed, sound.dials⟩, Kept.refl _⟩
  | closePool =>
    have ⟨_, next⟩ := ite_none_left_eq_some.mp stepped
    cases next
    exact ⟨sound.mapPool fun holds => holds.close, Kept.refl _⟩
  | closeMigrator =>
    have ⟨_, next⟩ := ite_none_left_eq_some.mp stepped
    cases next
    exact sound.migratorStep close_keeps

theorem run_sound {events : List (Event τ)} {start final : State τ} (sound : Sound config start)
    (ran : (machine config).run start events = some final) :
    Sound config final ∧ Kept start.migrator.conns final.migrator.conns :=
  Machine.run_invariant
    (fun state => Sound config state ∧ Kept start.migrator.conns state.migrator.conns)
    (fun holds stepped =>
      have ⟨kept, conns⟩ := step_sound holds.1 stepped
      ⟨kept, holds.2.trans conns⟩)
    events ⟨sound, Kept.refl _⟩ ran

def State.underlying (state : State τ) : Returned → Option Nat
  | .raw conn => some conn
  | .migrated wrapper => state.migrator.conns[wrapper]?

/-- The connection was made by the transport active when `Dial` was called, if one was, unless
dialing it failed in the call. -/
def FromActive (state : State τ) (dial : Dial τ) (conn : Nat) : Prop :=
  ∀ active, dial.active = some active →
    state.made[conn]?.map Made.transport = some active ∨ dial.activeFailed = true

/-- A migration before the selector is closed leaves the connection draining. -/
def Drains (config : Config τ) (state : State τ) (conn : Nat) : Prop :=
  ∀ later now reached, (machine config).run state later = some reached →
    reached.migrator.closed = false →
    ∃ tc ∈ (reached.migrator.migrate now).tracked, tc.conn = conn ∧ tc.draining = true

/-- What a `Dial` returned comes from the active transport, or that failed in the call, and is
drained by every later migration. -/
def Lawful (config : Config τ) (state : State τ) (dial : Dial τ) (result : Returned) : Prop :=
  ∃ conn, state.underlying result = some conn ∧ FromActive state dial conn ∧
    Drains config state conn

/-- Before the selector is closed a returned connection is lawful exactly if it is tracked; the
others come from the pool, which always dials the first transport. -/
theorem lawful_iff_tracked {events : List (Event τ)}
    (ran : (machine config).run (new config) events = some state)
    (isOpen : state.migrator.closed = false) (made : dial ∈ state.dials)
    {result : Returned} (returned : dial.stage = .returned result) :
    (Lawful config state dial result ↔ ∃ wrapper, result = .migrated wrapper) ∧
    ∀ conn, result = .raw conn → config.Pools ∧
      state.made[conn]?.map Made.transport = config.transports.head? := by
  have ⟨sound, _⟩ := run_sound new_sound ran
  have dialSound := sound.dials dial made
  rw [Dial.Sound, returned] at dialSound
  cases result with
  | migrated wrapper =>
    have ⟨conn, transport, wraps, isMade, allows⟩ := dialSound
    refine ⟨⟨fun _ => ⟨wrapper, rfl⟩, fun _ => ⟨conn, wraps, fun active isActive => ?_, ?_⟩⟩, nofun⟩
    · rw [isMade, map_some, some_inj]
      exact allows active isActive
    · intro later now reached continued stillOpen
      have ⟨soundThen, kept⟩ := run_sound sound continued
      exact migrate_drains soundThen.listed stillOpen (kept wrapper conn wraps) now
  | raw conn =>
    have ⟨pools, first, head, isMade⟩ := dialSound
    refine ⟨⟨fun ⟨other, same, _, drains⟩ => ?_, nofun⟩, fun other same => ⟨pools, ?_⟩⟩
    · -- The migrator tracks only what the selector dialed itself.
      have ⟨tc, present, isConn, _⟩ := drains [] 0 state rfl isOpen
      have tracked : tc.conn ∈ state.migrator.conns := by
        rw [← (migrate_keeps 0).conns]
        exact mem_map_of_mem present
      have ⟨transport, bySelector⟩ := sound.tracked tc.conn tracked
      rw [isConn, ← Option.some.inj same, isMade] at bySelector
      cases bySelector
    · rw [← Returned.raw.inj same, isMade, head]
      rfl

/-- Only a new call and the steps of a call change the calls. -/
theorem step_dials {event : Event τ} (stepped : step config state event = some next)
    (other : ∀ i inner, event ≠ .advance i inner) (old : event ≠ .dial) :
    next.dials = state.dials := by
  cases event with
  | advance i inner => exact absurd rfl (other i inner)
  | dial => exact absurd rfl old
  | wrapStream _ | closeStream _ =>
    have ⟨_, _, same⟩ := map_eq_some_iff.mp stepped
    cases same
    rfl
  | _ => grind [step, start, warmUp, maybeSwitch, connect]

/-- A step leaves all returned connections tracked exactly if the pool does not serve it. -/
theorem step_allTracked_iff (sound : Sound config state) {event : Event τ}
    (stepped : step config state event = some next) :
    AllTracked next ↔ AllTracked state ∧ ¬PoolServes state event := by
  rw [allTracked_iff, allTracked_iff]
  cases event with
  | advance i event =>
    rw [step] at stepped
    split at stepped
    · cases stepped
    rename_i dial found
    have ⟨⟨reached, dial'⟩, advanced, same⟩ := map_eq_some_iff.mp stepped
    cases same
    have serves := advance_isRaw_iff found advanced
    have moving : dial.stage.isRaw = false := by
      cases stage : dial.stage with
      | returned result => cases event <;> simp [advance, dialReturns, proceed, stage] at advanced
      | _ => rfl
    have same := (advance_advances sound (sound.dials dial (mem_of_getElem? found)) advanced).dials
    rw [← serves, Bool.not_eq_true]
    dsimp only
    rw [same]
    constructor
    · intro all
      have inside := (List.getElem?_eq_some_iff.mp found).1
      refine ⟨fun other listed => ?_, all dial' (mem_set inside _)⟩
      rcases eq_or_mem_set found listed with rfl | kept
      · exact moving
      · exact all other kept
    · rintro ⟨all, tracked⟩
      exact forall_mem_set all tracked i
  | dial =>
    cases stepped
    simp only [forall_mem_append, forall_mem_singleton, PoolServes, not_false_eq_true, and_true,
      and_iff_left_iff_imp]
    intro _
    unfold beginDial
    split
    · rfl
    · exact withoutPool_isRaw
  | _ => simp [step_dials stepped nofun nofun, PoolServes]

/-- Without multipath and before the selector is closed, every connection that `Dial` returned comes
from the active transport (or that failed in the call) and is drained by every later migration
exactly if the pool served no call in any step. The pool never does if it is not configured, and
what it gives out was dialed by the first transport. -/
theorem dials_lawful_iff_pool_never_serves (config : Config τ) (events : List (Event τ))
    (state : State τ) (ran : (machine config).run (new config) events = some state)
    (isOpen : state.migrator.closed = false) :
    ((∀ dial ∈ state.dials, ∀ result, dial.stage = .returned result →
        Lawful config state dial result) ↔
      (machine config).Never PoolServes (new config) events) ∧
    (¬config.Pools → (machine config).Never PoolServes (new config) events) ∧
    ∀ dial ∈ state.dials, ∀ conn, dial.stage = .returned (.raw conn) →
      state.made[conn]?.map Made.transport = config.transports.head? := by
  have tracked : AllTracked state ↔ (machine config).Never PoolServes (new config) events := by
    rw [Machine.run_iff_never (Sound config) (fun _ => True) (fun sound stepped =>
      (step_sound sound stepped).1) (fun sound _ => step_allTracked_iff sound) events new_sound
      (fun _ _ => trivial) ran]
    exact and_iff_right nofun
  have each {dial : Dial τ} (made : dial ∈ state.dials) {result : Returned} :=
    @lawful_iff_tracked τ config state dial _ events ran isOpen made result
  refine ⟨?_, fun pools => tracked.mp fun dial made conn returned => ?_,
    fun dial made conn returned => ((each made returned).2 conn rfl).2⟩
  · rw [← tracked]
    constructor
    · intro lawful dial made conn returned
      have ⟨wrapper, same⟩ := (each made returned).1.mp (lawful dial made _ returned)
      cases same
    · intro all dial made result returned
      cases result with
      | raw conn => exact absurd returned (all dial made conn)
      | migrated wrapper => exact (each made returned).1.mpr ⟨wrapper, rfl⟩
  · exact pools ((each made returned).2 conn rfl).1

end Invariant

def warmConfig : Config Bool where
  transports := [false, true]
  typeOf := fun second => if second then lit "reality" else lit "h3"
  strategy := .auto
  serverAddr := lit "server:443"
  warmUpConns := 1
  poolMaxIdle := 0
  poolIdleTTL := 0
  drainTimeout := 0

def coldConfig : Config Bool := { warmConfig with warmUpConns := 0 }

def switched : List (Event Bool) :=
  [.probed ⟨false, 5, false⟩, .maybeSwitch [lit "h3", lit "reality"] 1]

def coldRun : List (Event Bool) :=
  .start :: switched ++ [.dial, .advance 0 (.dialed true), .advance 0 (.proceed 2)]

def warmRun : List (Event Bool) :=
  .start :: .warmUp true 0 :: switched ++ [.dial, .advance 0 (.get 2)]

theorem coldRun_lawful :
    ∃ state conn, (machine coldConfig).run (new coldConfig) coldRun = some state ∧
      state.dials = [⟨some true, false, .returned (.migrated 0)⟩] ∧
      state.underlying (.migrated 0) = some conn ∧
      FromActive state ⟨some true, false, .returned (.migrated 0)⟩ conn ∧
      Drains coldConfig state conn := by
  have ⟨exactly, unpooled, _⟩ := dials_lawful_iff_pool_never_serves coldConfig coldRun _ rfl rfl
  have ⟨conn, stands, lawful⟩ := exactly.mpr (unpooled fun pools => absurd pools.1 (by decide))
    ⟨some true, false, .returned (.migrated 0)⟩ (mem_singleton_self _) (.migrated 0) rfl
  exact ⟨_, conn, rfl, rfl, stands, lawful⟩

/-- With the second transport active, the dial returns a connection that the pool made by the first
one; dialing the active transport did not fail, and no migration drains the connection. -/
theorem warmRun_unlawful :
    ∃ state, (machine warmConfig).run (new warmConfig) warmRun = some state ∧
      state.dials = [⟨some true, false, .returned (.raw 0)⟩] ∧
      ¬FromActive state ⟨some true, false, .returned (.raw 0)⟩ 0 ∧
      ¬Drains warmConfig state 0 := by
  refine ⟨_, rfl, rfl, fun fromActive => ?_, fun drains => ?_⟩
  · exact absurd (fromActive true rfl) (by decide)
  · have ⟨tc, present, _⟩ := drains [] 0 _ rfl rfl
    exact absurd present not_mem_nil

/-! ## Dials that fail -/

section

variable {τ : Type} {config : Config τ} {before : Migrator} {call next : State τ × Dial τ}

/-- One call of `Dial` with nothing in between. -/
def calls (config : Config τ) : Machine (State τ × Dial τ) DialEvent :=
  ⟨fun call => advance config call.1 call.2⟩

/-- Whether a call with an active transport has migrated; none when it no longer fails. -/
def Stage.migrated : Stage τ → Option Bool
  | .pool | .poolDial | .dialing _ | .migrating _ => some false
  | .trying _ _ _ | .failed => some true
  | .choosing _ _ _ | .tracking _ _ | .returned _ => none

def Behind (before : Migrator) (call : State τ × Dial τ) : Prop :=
  call.2.active.isSome ∧ (call.2.stage.migrated = some false → call.1.migrator = before) ∧
    (call.2.stage.migrated = some true → ∃ now, call.1.migrator = before.migrate now)

theorem tryFrom_migrated (loop : Loop) (transports : List τ) :
    (tryFrom loop transports).migrated = some true := by
  cases transports <;> rfl

theorem withoutPool_active {dial : Dial τ} (active : dial.active.isSome) :
    (withoutPool config dial).active = dial.active ∧
      (withoutPool config dial).stage.migrated = some false := by
  grind [withoutPool, Stage.migrated]

/-- A call that tries the transports in turn has migrated. -/
theorem Behind.trying {state : State τ} {dial : Dial τ} (active : dial.active.isSome) (loop : Loop)
    (transports : List τ) (migrated : ∃ now, state.migrator = before.migrate now) :
    Behind before (state, { dial with stage := tryFrom loop transports }) := by
  refine ⟨active, fun unmoved => ?_, fun _ => migrated⟩
  cases (tryFrom_migrated loop transports).symm.trans unmoved

theorem Behind.advance {event : DialEvent} (behind : Behind before call)
    (advanced : (calls config).step call event = some next) : Behind before next := by
  obtain ⟨state, dial⟩ := call
  have ⟨active, notYet, since⟩ := behind
  dsimp only at active notYet since
  have passed (kept : state.migrator = before) :
      Behind before (state, withoutPool config dial) := by
    have ⟨same, unmoved⟩ := @withoutPool_active τ config dial active
    exact ⟨same ▸ active, fun _ => kept, fun moved => nomatch unmoved.symm.trans moved⟩
  cases event with
  | get now =>
    simp only [calls, Selector.advance, askPool] at advanced
    split at advanced
    · rename_i stage
      have kept := notYet (by rw [stage]; rfl)
      split at advanced
      · cases advanced
      split at advanced
      · cases advanced
        exact passed kept
      · split at advanced <;> cases advanced
        · exact ⟨active, nofun, nofun⟩
        · exact ⟨active, fun _ => kept, nofun⟩
    · cases advanced
  | dialed ok =>
    simp only [calls, Selector.advance, dialReturns] at advanced
    split at advanced <;> rename_i stage
    · have kept := notYet (by rw [stage]; rfl)
      split at advanced
      · cases advanced
      split at advanced <;> cases advanced
      · exact ⟨active, nofun, nofun⟩
      · exact passed kept
    · have kept := notYet (by rw [stage]; rfl)
      split at advanced <;> cases advanced
      · exact ⟨active, nofun, nofun⟩
      · exact ⟨active, fun _ => kept, nofun⟩
    · have migrated := since (by rw [stage]; rfl)
      split at advanced <;> cases advanced
      · exact ⟨active, nofun, nofun⟩
      · exact .trying active _ _ migrated
    · cases advanced
  | proceed now =>
    simp only [calls, Selector.advance, proceed] at advanced
    split at advanced <;> rename_i stage <;> cases advanced
    · -- The dial of the active transport failed, and `Dial` migrates.
      have kept := notYet (by rw [stage]; rfl)
      exact .trying active _ _ ⟨now, by rw [kept]⟩
    · exact ⟨active, nofun, nofun⟩
    · exact ⟨active, nofun, nofun⟩

theorem migrate_draining_iff (migrator : Migrator) (now : Int) :
    (migrator.migrate now).tracked.map (·.draining) = migrator.tracked.map (·.draining) ↔
      ∀ wrapper ∈ migrator.connections, ∀ tc, migrator.tracked[wrapper]? = some tc →
        tc.draining = true := by
  rw [List.ext_getElem?_iff]
  constructor
  · intro same wrapper listed tc found
    have kept := same wrapper
    simp only [migrate, getElem?_map, getElem?_mapIdx, found, listed, map_some, if_pos,
      startDraining_draining, some_inj] at kept
    exact kept.symm
  · intro all wrapper
    cases found : migrator.tracked[wrapper]? with
    | none => simp [migrate, found]
    | some tc =>
      by_cases listed : wrapper ∈ migrator.connections
      · simp [migrate, found, listed, startDraining, all wrapper listed tc found]
      · simp [migrate, found, listed]

/-- A `Dial` that fails with its active transport and all others leaves the connections as they were
exactly if all that the migrator lists were draining before. -/
theorem failed_dial_drains_nothing_iff (config : Config τ) (state final : State τ) (dial : Dial τ)
    (events : List DialEvent) (active : state.active.isSome)
    (ran : (calls config).run (state, beginDial config state) events = some (final, dial))
    (failed : dial.stage = .failed) :
    final.migrator.tracked.map (·.draining) = state.migrator.tracked.map (·.draining) ↔
      ∀ wrapper ∈ state.migrator.connections, ∀ tc, state.migrator.tracked[wrapper]? = some tc →
        tc.draining = true := by
  have begun : Behind state.migrator (state, beginDial config state) := by
    grind [Behind, beginDial, withoutPool_active, Stage.migrated]
  have behind := Machine.run_invariant (Behind state.migrator) Behind.advance events begun ran
  have ⟨now, migrated⟩ := behind.2.2 (failed ▸ rfl)
  rw [migrated, migrate_draining_iff]

end

def failing : List DialEvent := [.dialed false, .proceed 3, .dialed false]

def activeState : State Bool := { new coldConfig with active := some true }

def holding : State Bool :=
  { activeState with migrator := activeState.migrator.track 0 (lit "h3") }

def drainingState : State Bool := { holding with migrator := holding.migrator.migrate 1 }

/-- The one connection was draining before the dial failed. -/
theorem nothing_drains : ∃ final dial,
    (calls coldConfig).run (drainingState, beginDial coldConfig drainingState) failing =
      some (final, dial) ∧ drainingState.migrator.connections = [0] ∧
      final.migrator.tracked.map (·.draining) = drainingState.migrator.tracked.map (·.draining) :=
  ⟨_, _, rfl, rfl,
    (failed_dial_drains_nothing_iff coldConfig drainingState _ _ failing rfl rfl rfl).mpr
      fun wrapper listed tc found => by
        cases mem_singleton.mp listed
        cases found
        rfl⟩

/-- The dial fails, and the drain loop takes the connection off the list. -/
theorem failed_dial_drains : ∃ final dial,
    (calls coldConfig).run (holding, beginDial coldConfig holding) failing = some (final, dial) ∧
      dial.stage = .failed ∧ holding.migrator.tracked.map (·.draining) = [false] ∧
      final.migrator.tracked.map (·.draining) = [true] ∧
      (final.migrator.drainIdle 4).connections = [] :=
  ⟨_, _, rfl, rfl, rfl, rfl, rfl⟩

end Shuttle.Selector
