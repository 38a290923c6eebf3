import Shuttle.Lib.Machine

/-!
# Relays and half-closed endpoints

`Relay` copies both ways between two endpoints. A direction that reached the end of its source calls
`CloseWrite` of its destination, or `Close` if that is not exposed, which also ends the reads of the
other direction. The wrappers of the plugin chain hide `CloseWrite`, the server's counting wrapper
hides both methods.
-/

namespace Shuttle.Relay

open Shuttle.Lib List Option

inductive Endpoint where
  /-- A connection or stream, by whether it exposes `CloseWrite` and whether its `Close` ends its
  reads. -/
  | conn (closeWrite closeEndsReads : Bool)
  /-- `trackingConn` or `chainConn`: embeds a `net.Conn`. -/
  | tracking (inner : Endpoint)
  /-- `countingReadWriter` in the wrapper of `asReadWriteCloser`, whose `Close` does nothing. -/
  | counting (inner : Endpoint)
  /-- `CountedReadWriter`, whose `CloseWrite` falls back to `Close`. -/
  | counted (inner : Endpoint)

namespace Endpoint

def closeEndsReads : Endpoint → Bool
  | .conn _ ends => ends
  | .tracking inner => inner.closeEndsReads
  | .counting _ => false
  | .counted inner => inner.closeEndsReads

def closeWrite : Endpoint → Option Bool
  | .conn exposed _ => if exposed then some false else none
  | .tracking _ => none
  | .counting _ => none
  | .counted inner => some (inner.closeWrite.getD inner.closeEndsReads)

/-- What a direction does to its destination at the end also ends the reads from it. -/
def endsReads (endpoint : Endpoint) : Bool :=
  endpoint.closeWrite.getD endpoint.closeEndsReads

end Endpoint

/-- How far a direction is; the flag says that its source ended. -/
inductive CopyStage where
  | copying
  /-- Left the loop and is about to close its destination. -/
  | left (atEnd : Bool)
  | closed (atEnd : Bool)
deriving DecidableEq, Repr

/-- One direction: what the source's peer sent and how far it came. -/
structure Flow where
  sent : List UInt8
  ended : Bool
  unread : List UInt8
  held : List UInt8
  received : List UInt8
  stage : CopyStage
  /-- Reads from the source fail because the source was closed. -/
  stopped : Bool
deriving DecidableEq, Repr

inductive FlowEvent where
  | send (bytes : List UInt8)
  | finish
  | read (count : Nat)
  | write
  | readEnd

inductive Way where
  | aToB
  | bToA
deriving DecidableEq, Repr

def Way.other : Way → Way
  | .aToB => .bToA
  | .bToA => .aToB

namespace Flow

def start : Flow := ⟨[], false, [], [], [], .copying, false⟩

def advance (flow : Flow) : FlowEvent → Option Flow
  | .send bytes =>
    if flow.ended = false then
      some { flow with sent := flow.sent ++ bytes, unread := flow.unread ++ bytes }
    else none
  | .finish => some { flow with ended := true }
  | .read count =>
    if flow.stage = .copying ∧ flow.held = [] ∧ flow.stopped = false ∧ 0 < count ∧
        count ≤ flow.unread.length then
      some { flow with held := flow.unread.take count, unread := flow.unread.drop count }
    else none
  | .write =>
    if flow.stage = .copying ∧ flow.held ≠ [] then
      some { flow with received := flow.received ++ flow.held, held := [] }
    else none
  | .readEnd =>
    if flow.stage = .copying ∧ flow.held = [] then
      if flow.stopped then some { flow with stage := .left false }
      else if flow.unread = [] ∧ flow.ended = true then some { flow with stage := .left true }
      else none
    else none

/-- Steps that are left in a direction whose peer is done, at most. -/
def work (flow : Flow) : Nat :=
  2 * flow.unread.length + (if flow.held = [] then 0 else 1) +
    match flow.stage with
    | .copying => 2
    | .left _ => 1
    | .closed _ => 0

end Flow

structure Relaying where
  a : Endpoint
  b : Endpoint
  flow : Way → Flow

inductive RelayEvent where
  | flow (way : Way) (event : FlowEvent)
  | close (way : Way)

namespace Relaying

def start (a b : Endpoint) : Relaying := ⟨a, b, fun _ => .start⟩

variable (relay : Relaying)

def dest : Way → Endpoint
  | .aToB => relay.b
  | .bToA => relay.a

def setFlow (way : Way) (flow : Flow) : Relaying :=
  { relay with flow := fun other => if other = way then flow else relay.flow other }

/-- A direction closes its destination, which is the source of the other one. -/
def closeDest (way : Way) (atEnd : Bool) : Relaying :=
  let relay := relay.setFlow way { relay.flow way with stage := .closed atEnd }
  if (relay.dest way).endsReads then
    relay.setFlow way.other { relay.flow way.other with stopped := true }
  else relay

def step : RelayEvent → Option Relaying
  | .flow way event => ((relay.flow way).advance event).map fun flow => relay.setFlow way flow
  | .close way =>
    match (relay.flow way).stage with
    | .left atEnd => some (relay.closeDest way atEnd)
    | _ => none

def machine : Machine Relaying RelayEvent := ⟨step⟩

def Done : Prop := ∀ way, ∃ atEnd, (relay.flow way).stage = .closed atEnd

/-- A direction ends the reads of the other one, which still copies. -/
def Cuts (event : RelayEvent) : Prop :=
  ∃ way, event = .close way ∧ (relay.dest way).endsReads = true ∧
    (relay.flow way.other).stage = .copying

/-- Steps that are left once both peers are done, at most. -/
def work (relay : Relaying) : Nat := (relay.flow .aToB).work + (relay.flow .bToA).work

end Relaying

/-! ## One direction -/

namespace Flow

/-- What the peer sent is what arrived, what is held and what was not read. -/
structure Sound (flow : Flow) : Prop where
  bytes : flow.sent = flow.received ++ flow.held ++ flow.unread
  empty : flow.stage ≠ .copying → flow.held = []
  complete : flow.stage = .left true ∨ flow.stage = .closed true →
    flow.ended = true ∧ flow.unread = []

/-- The direction has not failed and is not bound to fail. -/
def Smooth (flow : Flow) : Prop :=
  match flow.stage with
  | .copying => flow.stopped = false
  | .left atEnd | .closed atEnd => atEnd = true

variable {flow next : Flow} {event : FlowEvent}

theorem start_sound : start.Sound :=
  ⟨rfl, fun _ => rfl, fun left => left.elim (nofun) nofun⟩

theorem Sound.advance (sound : flow.Sound) (advanced : flow.advance event = some next) :
    next.Sound := by
  cases event with
  | send bytes =>
    have ⟨running, same⟩ := ite_none_right_eq_some.mp advanced
    cases same
    refine ⟨?_, sound.empty, fun left => ?_⟩
    · rw [sound.bytes, append_assoc]
    · have ⟨ended, _⟩ := sound.complete left
      rw [running] at ended
      cases ended
  | finish =>
    cases advanced
    exact ⟨sound.bytes, sound.empty, fun left => ⟨rfl, (sound.complete left).2⟩⟩
  | read count =>
    have ⟨⟨copying, idle, _, _, _⟩, same⟩ := ite_none_right_eq_some.mp advanced
    cases same
    refine ⟨?_, fun left => absurd copying left, fun left => ?_⟩
    · rw [append_assoc, take_append_drop, sound.bytes, idle, append_nil]
    · rcases left with left | closed
      · exact absurd (copying.symm.trans left) nofun
      · exact absurd (copying.symm.trans closed) nofun
  | write =>
    have ⟨⟨copying, _⟩, same⟩ := ite_none_right_eq_some.mp advanced
    cases same
    refine ⟨?_, fun _ => rfl, sound.complete⟩
    rw [append_nil, sound.bytes]
  | readEnd =>
    have ⟨⟨copying, idle⟩, rest⟩ := ite_none_right_eq_some.mp advanced
    split at rest
    · cases rest
      refine ⟨sound.bytes, fun _ => idle, fun left => ?_⟩
      rcases left with left | closed
      · exact nomatch left
      · exact nomatch closed
    · have ⟨⟨empty, ended⟩, same⟩ := ite_none_right_eq_some.mp rest
      cases same
      exact ⟨sound.bytes, fun _ => idle, fun _ => ⟨ended, empty⟩⟩

theorem advance_smooth_iff (advanced : flow.advance event = some next) :
    next.Smooth ↔ flow.Smooth := by
  cases event with
  | send bytes | read count | write =>
    have ⟨_, same⟩ := ite_none_right_eq_some.mp advanced
    cases same
    rfl
  | finish =>
    cases advanced
    rfl
  | readEnd =>
    have ⟨⟨copying, _⟩, rest⟩ := ite_none_right_eq_some.mp advanced
    have before : flow.Smooth ↔ flow.stopped = false := by rw [Smooth, copying]
    rw [before]
    split at rest
    · rename_i stopped
      cases rest
      rw [stopped]
      exact ⟨fun smooth => smooth.symm, fun smooth => smooth.symm⟩
    · rename_i running
      have ⟨_, same⟩ := ite_none_right_eq_some.mp rest
      cases same
      exact ⟨fun _ => Bool.eq_false_iff.mpr running, fun _ => rfl⟩

theorem Sound.close {atEnd : Bool} (sound : flow.Sound) (left : flow.stage = .left atEnd) :
    Sound { flow with stage := .closed atEnd } where
  bytes := sound.bytes
  empty _ := sound.empty (by rw [left]; exact nofun)
  complete closed := by
    rcases closed with wrong | same
    · exact nomatch wrong
    · cases same
      exact sound.complete (.inl left)

theorem Sound.stop (sound : flow.Sound) : Sound { flow with stopped := true } :=
  ⟨sound.bytes, sound.empty, sound.complete⟩

theorem stop_smooth_iff :
    Smooth { flow with stopped := true } ↔ flow.Smooth ∧ flow.stage ≠ .copying := by
  rw [Smooth, Smooth]
  cases flow.stage with
  | copying => exact ⟨fun smooth => (nomatch smooth), fun ⟨_, left⟩ => absurd rfl left⟩
  | left | closed =>
    exact ⟨fun smooth => ⟨smooth, nofun⟩, And.left⟩

theorem exists_advance (ended : flow.ended = true) (copying : flow.stage = .copying) :
    ∃ event next, flow.advance event = some next ∧ next.ended = true ∧ next.work < flow.work := by
  by_cases idle : flow.held = []
  · by_cases stopped : flow.stopped = true
    · refine ⟨.readEnd, { flow with stage := .left false }, ?_, ended, ?_⟩
      · rw [advance, if_pos ⟨copying, idle⟩, if_pos stopped]
      · rw [work, work, copying]
        exact Nat.lt_succ_self _
    · by_cases empty : flow.unread = []
      · refine ⟨.readEnd, { flow with stage := .left true }, ?_, ended, ?_⟩
        · rw [advance, if_pos ⟨copying, idle⟩, if_neg stopped, if_pos ⟨empty, ended⟩]
        · rw [work, work, copying]
          exact Nat.lt_succ_self _
      · have more : 0 < flow.unread.length := length_pos_iff.mpr empty
        refine ⟨.read flow.unread.length, _,
          if_pos ⟨copying, idle, Bool.eq_false_iff.mpr stopped, more, Nat.le_refl _⟩, ended, ?_⟩
        rw [work, work]
        simp only [take_length, drop_length, length_nil, if_neg empty]
        omega
  · refine ⟨.write, _, if_pos ⟨copying, idle⟩, ended, ?_⟩
    rw [work, work]
    simp only [if_neg idle, if_true]
    omega

end Flow

/-! ## Whole runs -/

namespace Relaying

variable {relay next : Relaying} {event : RelayEvent}

variable (way : Way)

theorem setFlow_same (flow : Flow) : (relay.setFlow way flow).flow way = flow :=
  if_pos rfl

theorem setFlow_other {way other : Way} (apart : other ≠ way) (flow : Flow) :
    (relay.setFlow way flow).flow other = relay.flow other :=
  if_neg apart

theorem other_ne : way.other ≠ way := by
  cases way <;> exact nofun

theorem eq_or_eq_other (way direction : Way) : direction = way ∨ direction = way.other := by
  cases way <;> cases direction <;> decide

theorem closeDest_flow (atEnd : Bool) :
    (relay.closeDest way atEnd).flow way = { relay.flow way with stage := .closed atEnd } ∧
      (relay.closeDest way atEnd).flow way.other =
        if (relay.dest way).endsReads then { relay.flow way.other with stopped := true }
        else relay.flow way.other := by
  have same : (relay.setFlow way { relay.flow way with stage := .closed atEnd }).dest way =
      relay.dest way := by cases way <;> rfl
  rw [closeDest]
  rw [same]
  split
  · rw [setFlow_other (other_ne way).symm, setFlow_same, setFlow_same, setFlow_other (other_ne way)]
    exact ⟨rfl, rfl⟩
  · rw [setFlow_same, setFlow_other (other_ne way)]
    exact ⟨rfl, rfl⟩

theorem step_cases (stepped : relay.step event = some next) :
    (∃ way local_ flow, event = .flow way local_ ∧ (relay.flow way).advance local_ = some flow ∧
      next = relay.setFlow way flow) ∨
    ∃ way atEnd, event = .close way ∧ (relay.flow way).stage = .left atEnd ∧
      next = relay.closeDest way atEnd := by
  cases event with
  | flow way change =>
    have ⟨flow, advanced, same⟩ := map_eq_some_iff.mp stepped
    exact .inl ⟨way, change, flow, rfl, advanced, same.symm⟩
  | close way =>
    rw [step] at stepped
    split at stepped
    · rename_i atEnd left
      exact .inr ⟨way, atEnd, rfl, left, (Option.some.inj stepped).symm⟩
    · cases stepped

def Sound (relay : Relaying) : Prop := ∀ way, (relay.flow way).Sound

def Smooth (relay : Relaying) : Prop := ∀ way, (relay.flow way).Smooth

theorem Sound.step (sound : relay.Sound) (stepped : relay.step event = some next) : next.Sound := by
  rcases step_cases stepped with ⟨way, change, flow, _, advanced, rfl⟩ | ⟨way, atEnd, _, left, rfl⟩
  · intro direction
    rcases eq_or_eq_other way direction with rfl | rfl
    · rw [setFlow_same]
      exact (sound direction).advance advanced
    · rw [setFlow_other (other_ne way)]
      exact sound way.other
  · have ⟨own, opposite⟩ := @closeDest_flow relay way atEnd
    intro direction
    rcases eq_or_eq_other way direction with rfl | rfl
    · rw [own]
      exact (sound direction).close left
    · rw [opposite]
      split
      · exact (sound way.other).stop
      · exact sound way.other

theorem forall_way_iff {property : Way → Prop} :
    (∀ direction, property direction) ↔ property way ∧ property way.other := by
  refine ⟨fun all => ⟨all way, all way.other⟩, fun ⟨own, opposite⟩ direction => ?_⟩
  rcases eq_or_eq_other way direction with rfl | rfl
  · exact own
  · exact opposite

theorem step_smooth_iff (stepped : relay.step event = some next) :
    next.Smooth ↔ relay.Smooth ∧ ¬relay.Cuts event := by
  rcases step_cases stepped with
    ⟨way, change, flow, rfl, advanced, rfl⟩ | ⟨way, atEnd, rfl, left, rfl⟩
  · have calm : ¬relay.Cuts (.flow way change) := fun ⟨_, same, _⟩ => nomatch same
    rw [Smooth, Smooth, forall_way_iff way, forall_way_iff way, setFlow_same,
      setFlow_other (other_ne way), Flow.advance_smooth_iff advanced]
    exact ⟨fun smooth => ⟨smooth, calm⟩, And.left⟩
  · have ⟨own, opposite⟩ := @closeDest_flow relay way atEnd
    have closes : Flow.Smooth { relay.flow way with stage := .closed atEnd } ↔
        (relay.flow way).Smooth := by
      rw [Flow.Smooth, Flow.Smooth, left]
    have cuts : relay.Cuts (.close way) ↔
        (relay.dest way).endsReads = true ∧ (relay.flow way.other).stage = .copying := by
      constructor
      · intro ⟨other, same, rest⟩
        cases same
        exact rest
      · intro rest
        exact ⟨way, rfl, rest⟩
    rw [Smooth, Smooth, forall_way_iff way, forall_way_iff way, own, opposite, closes, cuts]
    by_cases ends : (relay.dest way).endsReads = true
    · rw [if_pos ends, Flow.stop_smooth_iff, and_assoc]
      refine and_congr_right fun _ => and_congr_right fun _ => ?_
      rw [and_iff_right ends]
    · rw [if_neg ends]
      exact ⟨fun smooth => ⟨smooth, fun cut => ends cut.1⟩, And.left⟩

theorem work_eq : relay.work = (relay.flow way).work + (relay.flow way.other).work := by
  cases way with
  | aToB => rfl
  | bToA => exact Nat.add_comm _ _

theorem exists_step (ended : ∀ way, (relay.flow way).ended = true) (running : ¬relay.Done) :
    ∃ event next, relay.step event = some next ∧ (∀ way, (next.flow way).ended = true) ∧
      next.work < relay.work := by
  have ⟨way, unclosed⟩ := not_forall.mp running
  cases stage : (relay.flow way).stage with
  | copying =>
    have ⟨event, flow, advanced, flowEnded, less⟩ := Flow.exists_advance (ended way) stage
    refine ⟨.flow way event, relay.setFlow way flow, ?_, (forall_way_iff way).mpr ⟨?_, ?_⟩, ?_⟩
    · rw [step, advanced, map_some]
    · rw [setFlow_same]
      exact flowEnded
    · rw [setFlow_other (other_ne way)]
      exact ended way.other
    · rw [work_eq way, work_eq way, setFlow_same, setFlow_other (other_ne way)]
      exact Nat.add_lt_add_right less _
  | left atEnd =>
    have ⟨own, opposite⟩ := @closeDest_flow relay way atEnd
    have sameWork : ((relay.closeDest way atEnd).flow way.other).work =
        (relay.flow way.other).work := by
      rw [opposite]
      split <;> rfl
    refine ⟨.close way, relay.closeDest way atEnd, ?_, (forall_way_iff way).mpr ⟨?_, ?_⟩, ?_⟩
    · rw [step, stage]
    · rw [own]
      exact ended way
    · rw [opposite]
      split <;> exact ended way.other
    · rw [work_eq way, work_eq way, sameWork, own]
      refine Nat.add_lt_add_right ?_ _
      rw [Flow.work, Flow.work, stage]
      exact Nat.lt_succ_self _
  | closed atEnd => exact absurd ⟨atEnd, stage⟩ unclosed

theorem step_endpoints (stepped : relay.step event = some next) (way : Way) :
    next.dest way = relay.dest way := by
  rcases step_cases stepped with ⟨_, _, _, _, _, rfl⟩ | ⟨closed, atEnd, _, _, rfl⟩
  · cases way <;> rfl
  · rw [closeDest]
    split <;> cases way <;> rfl

theorem never_cuts (events : List RelayEvent) : ∀ {relay : Relaying},
    (∀ way, (relay.dest way).endsReads = false) → machine.Never Cuts relay events := by
  induction events with
  | nil => exact fun _ => Machine.never_nil
  | cons event events ih =>
    intro relay keeps
    refine Machine.never_cons_iff.mpr fun next stepped => ⟨fun ⟨way, _, ends, _⟩ => ?_, ?_⟩
    · rw [keeps way] at ends
      cases ends
    · refine ih fun way => ?_
      rw [step_endpoints stepped way]
      exact keeps way

theorem Done.smooth_iff (done : relay.Done) :
    relay.Smooth ↔ ∀ way, (relay.flow way).stage = .closed true := by
  refine forall_congr' fun way => ?_
  have ⟨atEnd, closed⟩ := done way
  rw [Flow.Smooth, closed]
  exact ⟨fun smooth => by rw [smooth], fun same => by cases same; rfl⟩

def requestEvents : List RelayEvent :=
  [.flow .aToB (.send [1]), .flow .aToB .finish, .flow .aToB (.read 1), .flow .aToB .write,
    .flow .aToB .readEnd, .close .aToB, .flow .bToA (.send [2]), .flow .bToA .finish]

def answerEvents : List RelayEvent :=
  [.flow .bToA (.read 1), .flow .bToA .write, .flow .bToA .readEnd, .close .bToA]

end Relaying

end Shuttle.Relay
