import Mathlib.Data.List.Infix
import Shuttle.Lib.Machine

/-!
# The BBR controller behind the QUIC adapter

`BBRController` with its estimates, state machine and counters, and the `QUICAdapter` that turns
send times into RTT samples. Times are nanoseconds after Go's zero time; one `OnAck` takes its
readings of the clock in the order of their places. The window and the pacing rate are left out: no
function below reads them.
-/

namespace Shuttle.Congestion

open Shuttle.Lib List

inductive BBRState where
  | startup
  | drain
  | probeBW
  | probeRTT
deriving DecidableEq

def second : Nat := 1000000000

def bbrProbeBWCycleLen : Nat := 8

def bbrBWFilterLen : Nat := 10

def bbrRTPropExpiry : Int := 10 * second

structure BBRController where
  btlBw : UInt64 := 0
  rtProp : Int64
  state : BBRState
  bwFilter : List UInt64
  bwFilterIdx : Nat := 0
  rtPropExpiry : Int
  probeRTTDone : Bool := false
  cycleIdx : Nat := 0
  cycleStart : Int := 0
  filledPipe : Bool := false
  fullBwCnt : Nat := 0
  fullBw : UInt64 := 0
  totalSent : UInt64 := 0
  totalAcked : UInt64 := 0
  totalLost : UInt64 := 0
  initialCwnd : UInt64

def newBBR (initialCwnd : UInt64) (now : Int) : BBRController where
  rtProp := Int64.maxValue
  state := .startup
  bwFilter := List.replicate bbrBWFilterLen 0
  rtPropExpiry := now + bbrRTPropExpiry
  initialCwnd := if initialCwnd = 0 then 32 * 1200 else initialCwnd

inductive BBRCall where
  | sent (bytes : UInt64)
  | ack (ackedBytes : UInt64) (rtt : Int64) (now : Nat → Int)
  | loss (lostBytes : UInt64)
  | reset (now : Int)

namespace BBRController

variable (b : BBRController)

def updateRTT (rtt : Int64) (now : Nat → Int) : BBRController :=
  if rtt < b.rtProp ∨ b.rtPropExpiry < now 0 then
    { b with rtProp := rtt, rtPropExpiry := now 1 + bbrRTPropExpiry }
  else b

variable (ackedBytes : UInt64)

def updateBandwidth (rtt : Int64) : BBRController :=
  if rtt ≤ 0 then b
  else
    let deliveryRate := ackedBytes * UInt64.ofNat second / rtt.toUInt64
    let bwFilter := b.bwFilter.set (b.bwFilterIdx % bbrBWFilterLen) deliveryRate
    let maxBw := bwFilter.foldl (fun maxBw bw => if maxBw < bw then bw else maxBw) 0
    { b with bwFilter := bwFilter, bwFilterIdx := b.bwFilterIdx + 1, btlBw := maxBw }

def checkFilledPipe : BBRController :=
  if b.fullBw * 5 / 4 ≤ b.btlBw then { b with fullBw := b.btlBw, fullBwCnt := 0 }
  else
    { b with fullBwCnt := b.fullBwCnt + 1, filledPipe := b.filledPipe || 3 ≤ b.fullBwCnt + 1 }

def bdp : UInt64 :=
  if b.rtProp = Int64.maxValue then b.initialCwnd
  else b.btlBw * b.rtProp.toUInt64 / UInt64.ofNat second

/-- The value that Drain compares with the BDP. -/
def inflight : UInt64 := b.totalSent - b.totalAcked

/-- A cycle ends after `rtProp`; `time.Since` is at most the largest duration. -/
def advanceCycle (now : Nat → Int) : BBRController :=
  if 0 < b.rtProp ∧ b.rtProp.toInt < min (now 2 - b.cycleStart) Int64.maxValue.toInt then
    { b with cycleIdx := (b.cycleIdx + 1) % bbrProbeBWCycleLen, cycleStart := now 3 }
  else b

def updateState (now : Nat → Int) : BBRController :=
  match b.state with
  | .startup => (if b.filledPipe then { b with state := .drain } else b).checkFilledPipe
  | .drain => if b.inflight ≤ b.bdp then { b with state := .probeBW, cycleStart := now 2 } else b
  | .probeBW =>
    if b.rtPropExpiry < now 4 then
      { b.advanceCycle now with state := .probeRTT, probeRTTDone := false }
    else b.advanceCycle now
  | .probeRTT => if b.probeRTTDone then { b with state := .probeBW } else b

def onPacketSent (bytes : UInt64) : BBRController := { b with totalSent := b.totalSent + bytes }

/-- The controller of an acknowledgement when `updateState` is called. -/
def measured (rtt : Int64) (now : Nat → Int) : BBRController :=
  let counted := { b with totalAcked := b.totalAcked + ackedBytes }
  (counted.updateRTT rtt now).updateBandwidth ackedBytes rtt

def onAck (rtt : Int64) (now : Nat → Int) : BBRController :=
  (b.measured ackedBytes rtt now).updateState now

def onPacketLoss (lostBytes : UInt64) : BBRController :=
  { b with totalLost := b.totalLost + lostBytes }

def reset (now : Int) : BBRController :=
  { b with
    state := .probeBW, totalSent := 0, totalAcked := 0, bwFilter := List.replicate bbrBWFilterLen 0,
    bwFilterIdx := 0, rtProp := Int64.maxValue, rtPropExpiry := now + bbrRTPropExpiry,
    cycleIdx := 0 }

def call : BBRCall → BBRController
  | .sent bytes => b.onPacketSent bytes
  | .ack ackedBytes rtt now => b.onAck ackedBytes rtt now
  | .loss lostBytes => b.onPacketLoss lostBytes
  | .reset now => b.reset now

def run (calls : List BBRCall) : BBRController := calls.foldl call b

variable {b} {ackedBytes : UInt64} {rtt : Int64} {now : Nat → Int}

/-- What the state machine leaves alone; the end of a probe is never recorded. -/
structure Keeps (b next : BBRController) : Prop where
  rtProp : next.rtProp = b.rtProp
  bdp : next.bdp = b.bdp
  totalSent : next.totalSent = b.totalSent
  totalAcked : next.totalAcked = b.totalAcked
  probeRTTDone : b.probeRTTDone = false → next.probeRTTDone = false

theorem checkFilledPipe_keeps : b.Keeps b.checkFilledPipe ∧ b.checkFilledPipe.state = b.state := by
  rw [checkFilledPipe]
  split <;> exact ⟨⟨rfl, rfl, rfl, rfl, id⟩, rfl⟩

theorem advanceCycle_keeps :
    b.Keeps (b.advanceCycle now) ∧ (b.advanceCycle now).state = b.state := by
  rw [advanceCycle]
  split <;> exact ⟨⟨rfl, rfl, rfl, rfl, id⟩, rfl⟩

def nextState (b : BBRController) (now : Nat → Int) : BBRState :=
  match b.state with
  | .startup => if b.filledPipe then .drain else .startup
  | .drain => if b.inflight ≤ b.bdp then .probeBW else .drain
  | .probeBW => if b.rtPropExpiry < now 4 then .probeRTT else .probeBW
  | .probeRTT => if b.probeRTTDone then .probeBW else .probeRTT

theorem updateState_keeps :
    b.Keeps (b.updateState now) ∧ (b.updateState now).state = b.nextState now := by
  rw [updateState, nextState]
  split
  · split
    · have ⟨kept, same⟩ := checkFilledPipe_keeps (b := { b with state := .drain })
      exact ⟨⟨kept.rtProp, kept.bdp, kept.totalSent, kept.totalAcked, kept.probeRTTDone⟩, same⟩
    · rename_i state _
      exact state ▸ checkFilledPipe_keeps
  · rename_i state
    split
    · exact ⟨⟨rfl, rfl, rfl, rfl, id⟩, rfl⟩
    · exact ⟨⟨rfl, rfl, rfl, rfl, id⟩, state⟩
  · have ⟨kept, same⟩ := @advanceCycle_keeps b now
    rename_i state
    split
    · exact ⟨⟨kept.rtProp, kept.bdp, kept.totalSent, kept.totalAcked, fun _ => rfl⟩, rfl⟩
    · exact ⟨kept, same.trans state⟩
  · rename_i state
    split
    · exact ⟨⟨rfl, rfl, rfl, rfl, id⟩, rfl⟩
    · exact ⟨⟨rfl, rfl, rfl, rfl, id⟩, state⟩

theorem measured_facts (b : BBRController) (ackedBytes : UInt64) (rtt : Int64) (now : Nat → Int) :
    let measured := b.measured ackedBytes rtt now
    measured.state = b.state ∧ measured.probeRTTDone = b.probeRTTDone ∧
      measured.totalSent = b.totalSent ∧ measured.totalAcked = b.totalAcked + ackedBytes ∧
      measured.rtProp = (b.updateRTT rtt now).rtProp ∧
      measured.rtPropExpiry = (b.updateRTT rtt now).rtPropExpiry := by
  simp only [measured, updateRTT, updateBandwidth]
  split <;> split <;> simp

theorem onAck_rtProp : (b.onAck ackedBytes rtt now).rtProp =
    if rtt < b.rtProp ∨ b.rtPropExpiry < now 0 then rtt else b.rtProp := by
  have ⟨_, _, _, _, same, _⟩ := measured_facts b ackedBytes rtt now
  rw [onAck, updateState_keeps.1.rtProp, same, updateRTT]
  split <;> rfl

theorem onAck_state : (b.onAck ackedBytes rtt now).state =
    (b.measured ackedBytes rtt now).nextState now := updateState_keeps.2

end BBRController

/-! ## The RTT estimate -/

structure QUICAdapter where
  cc : BBRController
  totalSent : UInt64 := 0
  totalLost : UInt64 := 0
  lastSendTimes : List (Int64 × Int64) := []

/-- The calls of the QUIC stack that reach the controller. -/
inductive AdapterCall where
  | packetSent (sentTime number bytes : Int64) (isRetransmittable : Bool)
  | packetAcked (number ackedBytes eventTime : Int64) (now : Nat → Int)
  | congestionEvent (number lostBytes : Int64)

namespace QUICAdapter

variable (a : QUICAdapter)

def forget (number : Int64) : List (Int64 × Int64) :=
  a.lastSendTimes.filter fun entry => entry.1 ≠ number

def onPacketSent (sentTime number bytes : Int64) : QUICAdapter :=
  let totalSent := a.totalSent + bytes.toUInt64
  let sendTimes := (number, sentTime) :: a.forget number
  let cutoff := sentTime - Int64.ofNat (30 * second)
  { a with
    cc := a.cc.onPacketSent bytes.toUInt64, totalSent := totalSent
    lastSendTimes :=
      if 5000 < sendTimes.length ∧ totalSent % 1000 = 0 then
        sendTimes.filter fun entry => ¬entry.2 < cutoff
      else sendTimes }

/-- The RTT handed to the controller: zero without a send time before the event. -/
def rtt (number eventTime : Int64) : Int64 :=
  match a.lastSendTimes.lookup number with
  | some sentTime => if sentTime < eventTime then eventTime - sentTime else 0
  | none => 0

def sample : AdapterCall → Option Int64
  | .packetAcked number _ eventTime _ => some (a.rtt number eventTime)
  | _ => none

def call : AdapterCall → QUICAdapter
  | .packetSent sentTime number bytes isRetransmittable =>
    if isRetransmittable then a.onPacketSent sentTime number bytes else a
  | .packetAcked number ackedBytes eventTime now =>
    { a with
      cc := a.cc.onAck ackedBytes.toUInt64 (a.rtt number eventTime) now
      lastSendTimes := a.forget number }
  | .congestionEvent number lostBytes =>
    { a with
      cc := a.cc.onPacketLoss lostBytes.toUInt64, totalLost := a.totalLost + lostBytes.toUInt64
      lastSendTimes := a.forget number }

/-- The adapter together with the RTTs it has handed over. -/
def machine : Machine (QUICAdapter × List Int64) AdapterCall where
  step := fun (a, seen) call => some (a.call call, (a.sample call).toList ++ seen)

variable (state : QUICAdapter × List Int64)

/-- The estimate is positive, and its first value or a sample seen. -/
def RTPropValid : Prop :=
  0 < state.1.cc.rtProp ∧ (state.1.cc.rtProp = Int64.maxValue ∨ state.1.cc.rtProp ∈ state.2)

/-- An acknowledgement whose RTT is not positive: without a sample, or with a difference of times
that does not fit 64 bits. -/
def Unsampled (call : AdapterCall) : Prop :=
  ∃ rtt, state.1.sample call = some rtt ∧ rtt ≤ 0

/-- An acknowledgement without a sample that changes the estimate. -/
def Disturbs (call : AdapterCall) : Prop :=
  state.1.sample call = some 0 ∧ (state.1.call call).cc.rtProp ≠ state.1.cc.rtProp

variable {a} {state next : QUICAdapter × List Int64} {call : AdapterCall}

theorem call_rtProp : (a.call call).cc.rtProp = a.cc.rtProp ∨
    a.sample call = some (a.call call).cc.rtProp := by
  cases call with
  | packetSent sentTime number bytes isRetransmittable =>
    cases isRetransmittable <;> exact .inl rfl
  | packetAcked number ackedBytes eventTime now =>
    simp only [QUICAdapter.call, BBRController.onAck_rtProp]
    split
    · exact .inr rfl
    · exact .inl rfl
  | congestionEvent number lostBytes => exact .inl rfl

theorem RTPropValid.step (valid : RTPropValid state) (sampled : ¬Unsampled state call) :
    RTPropValid (state.1.call call, (state.1.sample call).toList ++ state.2) := by
  rcases @call_rtProp state.1 call with kept | taken
  · rw [RTPropValid, kept]
    exact ⟨valid.1, valid.2.imp id (mem_append_right _)⟩
  · refine ⟨?_, .inr ?_⟩
    · exact Int64.not_le.mp fun low => sampled ⟨_, taken, low⟩
    · rw [taken]
      exact mem_cons_self

/-- An RTT that is not positive is below a valid estimate and replaces it. -/
theorem RTPropValid.lost (valid : RTPropValid state) {rtt : Int64}
    (taken : state.1.sample call = some rtt) (low : rtt ≤ 0) :
    (state.1.call call).cc.rtProp = rtt := by
  cases call with
  | packetSent | congestionEvent => cases taken
  | packetAcked number ackedBytes eventTime now =>
    have below := Int64.lt_of_le_of_lt low valid.1
    rw [← Option.some.inj taken] at below ⊢
    rw [QUICAdapter.call, BBRController.onAck_rtProp, if_pos (.inl below)]

/-- The estimate stays valid, and acknowledgements without a sample leave it alone, exactly along
the runs in which every acknowledgement has one. -/
theorem rtProp_valid_iff_sampled (initialCwnd : UInt64) (started : Int) (calls : List AdapterCall) :
    machine.Always RTPropValid (⟨newBBR initialCwnd started, 0, 0, []⟩, []) calls ∧
        machine.Never Disturbs (⟨newBBR initialCwnd started, 0, 0, []⟩, []) calls ↔
      machine.Never Unsampled (⟨newBBR initialCwnd started, 0, 0, []⟩, []) calls := by
  have exactly : machine.Always RTPropValid (⟨newBBR initialCwnd started, 0, 0, []⟩, []) calls ↔
      machine.Never Unsampled (⟨newBBR initialCwnd started, 0, 0, []⟩, []) calls := by
    refine Machine.always_iff_never_of (fun _ => True) ?_ ?_ calls trivial ⟨?_, .inl rfl⟩
    · intro state next call _ valid stepped sampled
      cases stepped
      exact ⟨trivial, valid.step sampled⟩
    · intro state next call _ valid stepped ⟨rtt, taken, low⟩ after
      cases stepped
      have positive := after.1
      rw [valid.lost taken low] at positive
      exact Int64.not_lt.mpr low positive
    · exact (by decide : (0 : Int64) < Int64.maxValue)
  rw [← exactly]
  refine and_iff_left_of_imp fun valid => ?_
  intro before call after reached next split ran stepped disturbed
  exact exactly.mp valid before call after reached next split ran stepped
    ⟨0, disturbed.1, Int64.le_refl 0⟩

/-- The acknowledgement of a packet that was never sent sets the estimate to zero. -/
theorem sample_rtProp_zeroed :
    (machine.run (⟨newBBR 0 0, 0, 0, []⟩, []) [.packetAcked 7 1200 5 fun _ => 1]).map
      (fun state => state.1.cc.rtProp) = some 0 := by
  decide +kernel

end QUICAdapter

/-! ## Probing the RTT -/

/-- All readings of the clock during a call are equal. -/
def BBRCall.Instant : BBRCall → Prop
  | .ack _ _ now => ∀ place, now place = now 0
  | _ => True

namespace BBRController

variable {b : BBRController} {c : BBRCall} {ackedBytes : UInt64} {rtt : Int64} {now : Nat → Int}

/-- An acknowledgement in ProbeBW, more than ten seconds after the last update of `rtProp`, with
an RTT that is not lower. -/
def ProbeDue (b : BBRController) : BBRCall → Prop
  | .ack _ rtt now => b.state = .probeBW ∧ b.rtPropExpiry < now 0 ∧ b.rtProp ≤ rtt
  | _ => False

/-- `updateRTT` has renewed an expiry that is over before `updateState` looks at it. -/
theorem updateRTT_renews (instant : ∀ place, now place = now 0) :
    ¬(b.updateRTT rtt now).rtPropExpiry < now 4 := by
  rw [updateRTT, instant 4]
  split
  · simp only [instant 1, bbrRTPropExpiry]
    omega
  · rename_i current
    exact fun late => current (.inr late)

theorem call_state_ne_probeRTT (apart : b.state ≠ .probeRTT) (instant : c.Instant) :
    (b.call c).state ≠ .probeRTT := by
  cases c with
  | sent bytes | loss lostBytes => exact apart
  | ack ackedBytes rtt now =>
    have ⟨state, _, _, _, _, expiry⟩ := measured_facts b ackedBytes rtt now
    rw [call, onAck_state, nextState, expiry, if_neg (updateRTT_renews instant), state]
    cases stage : b.state with
    | startup | drain =>
      simp only
      split <;> nofun
    | probeBW => nofun
    | probeRTT => exact absurd stage apart
  | reset now => nofun

theorem run_state_ne_probeRTT (calls : List BBRCall) : ∀ {b : BBRController},
    b.state ≠ .probeRTT → (∀ c ∈ calls, c.Instant) → (b.run calls).state ≠ .probeRTT := by
  induction calls with
  | nil => exact fun apart _ => apart
  | cons c calls ih =>
    intro b apart instant
    have ⟨first, later⟩ := forall_mem_cons.mp instant
    exact ih (call_state_ne_probeRTT apart first) later

/-- A probe that has begun is not ended by any call but `Reset`. -/
theorem run_stays_probeRTT (calls : List BBRCall) (unreset : ∀ now, .reset now ∉ calls) :
    ∀ {b : BBRController}, b.state = .probeRTT → b.probeRTTDone = false →
      (b.run calls).state = .probeRTT := by
  induction calls with
  | nil => exact fun state _ => state
  | cons c calls ih =>
    intro b state open_
    have later : ∀ now, .reset now ∉ calls := fun now listed =>
      unreset now (mem_cons_of_mem c listed)
    cases c with
    | sent bytes | loss lostBytes => exact ih later state open_
    | ack ackedBytes rtt now =>
      have ⟨same, flag, _⟩ := measured_facts b ackedBytes rtt now
      refine ih later (onAck_state.trans ?_) (updateState_keeps.1.probeRTTDone (flag.trans open_))
      rw [nextState, same, state, flag, open_]
      rfl
    | reset now => exact absurd mem_cons_self (unreset now)

/-- Along a run whose calls each read one time, no acknowledgement starts the probe that is due or
leaves a probe, so the probes are made exactly when none is ever due. -/
theorem probes_iff_never_due (initialCwnd : UInt64) (started : Int) (calls : List BBRCall)
    (instant : ∀ c ∈ calls, c.Instant) :
    ((∀ before c after, calls = before ++ c :: after →
        ((newBBR initialCwnd started).run before).ProbeDue c →
        (((newBBR initialCwnd started).run before).call c).state = .probeRTT) ↔
      ∀ before c after, calls = before ++ c :: after →
        ¬((newBBR initialCwnd started).run before).ProbeDue c) ∧
      ((newBBR initialCwnd started).run calls).state ≠ .probeRTT ∧
      ∀ b : BBRController, b.state = .probeRTT → b.probeRTTDone = false →
        (∀ now, .reset now ∉ calls) → (b.run calls).state = .probeRTT := by
  refine ⟨⟨fun probes before c after split due => ?_, fun never before c after split due => ?_⟩,
    run_state_ne_probeRTT calls nofun instant,
    fun b state open_ unreset => run_stays_probeRTT calls unreset state open_⟩
  · have listed : c ∈ calls := split ▸ mem_append_right _ mem_cons_self
    refine call_state_ne_probeRTT ?_ (instant c listed) (probes before c after split due)
    cases c with
    | ack ackedBytes rtt now => exact due.1 ▸ nofun
    | _ => exact due.elim
  · exact absurd due (never before c after split)

/-! ## Draining -/

variable (calls : List BBRCall)

def sentBytes : Nat :=
  (calls.map fun | .sent bytes => bytes.toNat | _ => 0).sum

def ackedBytesOf : Nat :=
  (calls.map fun | .ack ackedBytes _ _ => ackedBytes.toNat | _ => 0).sum

def lostBytesOf : Nat :=
  (calls.map fun | .loss lostBytes => lostBytes.toNat | _ => 0).sum

/-- The bytes sent and neither acknowledged nor lost. -/
def outstanding : Nat :=
  sentBytes calls - ackedBytesOf calls - lostBytesOf calls

/-- Without `Reset` the counters hold the bytes of all calls, modulo the size of their type. -/
theorem run_counters (calls : List BBRCall) (unreset : ∀ now, .reset now ∉ calls) :
    ∀ b : BBRController,
      (b.run calls).totalSent.toNat = (b.totalSent.toNat + sentBytes calls) % 2 ^ 64 ∧
      (b.run calls).totalAcked.toNat = (b.totalAcked.toNat + ackedBytesOf calls) % 2 ^ 64 := by
  induction calls with
  | nil =>
    intro b
    exact ⟨(Nat.mod_eq_of_lt b.totalSent.toNat_lt).symm,
      (Nat.mod_eq_of_lt b.totalAcked.toNat_lt).symm⟩
  | cons c calls ih =>
    intro b
    have later : ∀ now, .reset now ∉ calls := fun now listed =>
      unreset now (mem_cons_of_mem c listed)
    have ⟨sent, acked⟩ := ih later (b.call c)
    rw [run, foldl_cons, ← run, sent, acked]
    simp only [sentBytes, ackedBytesOf, map_cons, sum_cons]
    cases c with
    | sent bytes =>
      simp only [call, onPacketSent, UInt64.toNat_add]
      omega
    | ack ackedBytes rtt now =>
      have ⟨_, _, sameSent, sameAcked, _⟩ := measured_facts b ackedBytes rtt now
      have kept := (@updateState_keeps (b.measured ackedBytes rtt now) now).1
      simp only [call, onAck, kept.totalSent, kept.totalAcked, sameSent, sameAcked,
        UInt64.toNat_add]
      omega
    | loss lostBytes =>
      simp only [call, onPacketLoss]
      omega
    | reset now => exact absurd mem_cons_self (unreset now)

theorem onAck_left_iff (draining : b.state = .drain) :
    (b.onAck ackedBytes rtt now).state = .probeBW ↔
      (b.onAck ackedBytes rtt now).inflight ≤ (b.onAck ackedBytes rtt now).bdp := by
  have kept := (@updateState_keeps (b.measured ackedBytes rtt now) now).1
  have ⟨state, _⟩ := measured_facts b ackedBytes rtt now
  rw [onAck_state, onAck, kept.bdp, inflight, kept.totalSent, kept.totalAcked, ← inflight,
    nextState, state]
  split <;> simp_all

/-- The value compared in Drain counts lost bytes as in flight: it is the outstanding bytes exactly
when nothing was lost, up to the size of the counters. -/
theorem drain_left_iff (initialCwnd : UInt64) (started : Int) (before : List BBRCall)
    (ackedBytes : UInt64) (rtt : Int64) (now : Nat → Int)
    (unreset : ∀ time, .reset time ∉ before ++ [.ack ackedBytes rtt now])
    (counted : ∀ front, front <+: before ++ [.ack ackedBytes rtt now] →
      ackedBytesOf front + lostBytesOf front ≤ sentBytes front)
    (draining : ((newBBR initialCwnd started).run before).state = .drain) :
    let calls := before ++ [.ack ackedBytes rtt now]
    let b := (newBBR initialCwnd started).run calls
    (b.inflight.toNat = outstanding calls ↔
        outstanding calls < 2 ^ 64 ∧ 2 ^ 64 ∣ lostBytesOf calls) ∧
      (b.state = .probeBW ↔ (outstanding calls + lostBytesOf calls) % 2 ^ 64 ≤ b.bdp.toNat) := by
  intro calls b
  have enough := counted calls prefix_rfl
  have value : b.inflight.toNat = (outstanding calls + lostBytesOf calls) % 2 ^ 64 := by
    have ⟨sent, acked⟩ := run_counters calls unreset (newBBR initialCwnd started)
    have zero : (newBBR initialCwnd started).totalSent.toNat = 0 ∧
        (newBBR initialCwnd started).totalAcked.toNat = 0 := ⟨rfl, rfl⟩
    rw [inflight, UInt64.toNat_sub, sent, acked, outstanding]
    omega
  refine ⟨by rw [value]; omega, ?_⟩
  have last : b = ((newBBR initialCwnd started).run before).onAck ackedBytes rtt now := by
    simp only [b, calls, run, foldl_append]
    rfl
  rw [← value, last]
  exact onAck_left_iff draining

def sampleCalls (sent lost : UInt64) (acks : Nat) : List BBRCall :=
  .sent sent :: .loss lost :: List.replicate acks (.ack 1000 (Int64.ofNat second) fun _ => 1)

theorem sample_drain_left :
    ((newBBR 0 0).run (sampleCalls 6000 0 5 ++ [.ack 1000 (Int64.ofNat second) fun _ => 1])).state =
      .probeBW := by
  refine (drain_left_iff 0 0 (sampleCalls 6000 0 5) 1000 (Int64.ofNat second) (fun _ => 1) ?_ ?_
    (by decide +kernel)).2.mpr (by decide +kernel)
  · simp [sampleCalls]
  · have counted : ∀ front ∈ (sampleCalls 6000 0 6).inits,
        ackedBytesOf front + lostBytesOf front ≤ sentBytes front := by decide +kernel
    exact fun front begins => counted front ((mem_inits ..).mpr begins)

/-- All bytes are acknowledged or lost, yet Drain goes on. -/
theorem sample_drain_kept :
    outstanding (sampleCalls 20000 14000 6) = 0 ∧
      ((newBBR 0 0).run (sampleCalls 20000 14000 5)).state = .drain ∧
      ((newBBR 0 0).run (sampleCalls 20000 14000 6)).bdp = 1000 ∧
      ((newBBR 0 0).run (sampleCalls 20000 14000 6)).inflight = 14000 ∧
      ((newBBR 0 0).run (sampleCalls 20000 14000 6)).state = .drain := by
  decide +kernel

theorem sample_never_probes : ((newBBR 0 0).run (sampleCalls 6000 0 9)).state ≠ .probeRTT :=
  (probes_iff_never_due 0 0 (sampleCalls 6000 0 9) (by simp [sampleCalls, BBRCall.Instant])).2.1

/-- Twenty seconds after the last update of the estimate an acknowledgement starts no probe. -/
theorem sample_probe_missed :
    ((newBBR 0 0).run (sampleCalls 6000 0 6)).ProbeDue
        (.ack 0 (Int64.ofNat second) fun _ => 20 * second) ∧
      (((newBBR 0 0).run (sampleCalls 6000 0 6)).call
        (.ack 0 (Int64.ofNat second) fun _ => 20 * second)).state = .probeBW :=
  ⟨⟨by decide +kernel, by decide +kernel, by decide +kernel⟩, by decide +kernel⟩

end BBRController

end Shuttle.Congestion
