import Shuttle.Crypto.Replay
import Shuttle.Go.Text

/-!
# Authentication of the HTTP/3 server

A handshake is checked for a replay and only then authenticated, so the replay filter takes the
nonce of a handshake whose HMAC is wrong. The runs considered are those in which the filter behaves
as an exact set. Even there a handshake with a wrong HMAC shuts out an honest one with its nonce,
until the filter has swapped twice.
-/

namespace Shuttle.H3Server

open Shuttle.Go Shuttle.Lib Shuttle.Crypto List ReplayFilter Generations

/-- What its control stream brings before the deadline, and the clock and the draws of its replay
check. -/
structure Handshake where
  received : List UInt8
  time : Instant
  choices : CuckooFilter.Choices

def authSize : Nat := 64

namespace Handshake

variable (handshake : Handshake)

def nonce : List UInt8 := (handshake.received.take authSize).take 32

def clientMAC : List UInt8 := (handshake.received.take authSize).drop 32

def Complete : Prop := authSize ≤ handshake.received.length

instance (handshake : Handshake) : Decidable handshake.Complete :=
  inferInstanceAs (Decidable (_ ≤ _))

theorem Complete.nonce_length {handshake : Handshake} (complete : handshake.Complete) :
    handshake.nonce.length ≠ 0 := by
  have enough : 64 ≤ handshake.received.length := complete
  rw [nonce, authSize, length_take, length_take]
  omega

end Handshake

inductive Response where
  | unread
  | replay
  | unauthenticated
  | accepted
deriving DecidableEq, Repr

/-- The page shown to those who are not let in. -/
def coverPage : GoString :=
  lit "HTTP/3 200\r\n\r\n<!DOCTYPE html><html><body><h1>Welcome</h1></body></html>"

def Response.written : Response → GoString
  | .accepted => [0x01]
  | _ => 0x00 :: coverPage

/-- The filter has taken the nonce. -/
def Response.takes : Response → Bool
  | .unauthenticated | .accepted => true
  | .unread | .replay => false

theorem takes_refused {response : Response} (takes : response.takes = true)
    (notAccepted : response ≠ .accepted) : response = .unauthenticated := by
  cases response with
  | unread | replay => contradiction
  | unauthenticated => rfl
  | accepted => exact absurd rfl notAccepted

section Server

variable (hmac : GoString → List UInt8 → List UInt8) (password : GoString)

def verifyHMAC (nonce mac : List UInt8) : Bool := mac == hmac password nonce

/-- A connection from its control stream to the answer; none for a panic. -/
def handleConn (filter : ReplayFilter) (handshake : Handshake) : Option (ReplayFilter × Response) :=
  if handshake.Complete then
    match filter.checkBytes handshake.nonce handshake.time handshake.choices with
    | none => none
    | some (filter, true) => some (filter, .replay)
    | some (filter, false) =>
      if verifyHMAC hmac password handshake.nonce handshake.clientMAC then some (filter, .accepted)
      else some (filter, .unauthenticated)
  else some (filter, .unread)

def swaps (filter : ReplayFilter) (handshake : Handshake) : Bool :=
  decide handshake.Complete && filter.swapsAt handshake.time

structure Served where
  response : Response
  swapped : Bool
deriving DecidableEq, Repr

/-- Connections in the order of their replay checks; none when one panics. -/
def serve (filter : ReplayFilter) : List Handshake → Option (List Served)
  | [] => some []
  | handshake :: handshakes =>
    match handleConn hmac password filter handshake with
    | none => none
    | some (next, response) =>
      (serve next handshakes).map (⟨response, swaps filter handshake⟩ :: ·)

def newServerFilter (start : Int) : ReplayFilter := newReplayFilter start 120000000000

def Authenticated (handshake : Handshake) : Prop :=
  handshake.Complete ∧ handshake.clientMAC = hmac password handshake.nonce

instance (handshake : Handshake) : Decidable (Authenticated hmac password handshake) :=
  inferInstanceAs (Decidable (_ ∧ _))

end Server

/-- Which connections swap the filters, given the half window and the last swap. -/
def swapFlags (half last : Int) : List Handshake → List Bool
  | [] => []
  | handshake :: handshakes =>
    if handshake.Complete ∧ ¬handshake.time.now - last < half then
      true :: swapFlags half handshake.time.stamp handshakes
    else false :: swapFlags half last handshakes

variable {handshake : Handshake} {served : Served} {nonce : List UInt8}

theorem swaps_iff {filter : ReplayFilter} :
    swaps filter handshake = true ↔
      handshake.Complete ∧ ¬handshake.time.now - filter.lastSwap < filter.window.tdiv 2 := by
  simp [swaps, swapsAt]

/-! ## The filter as an exact set -/

/-- The nonces remembered after a connection. -/
def remember (memory : Generations (List UInt8)) (handshake : Handshake) (served : Served) :
    Generations (List UInt8) :=
  if served.response.takes then (memory.rotate served.swapped).record handshake.nonce
  else memory.rotate served.swapped

/-- Whenever it is asked the filter reports a replay exactly when it remembers the nonce, and it
remembers every nonce it takes. -/
def Exact (memory : Generations (List UInt8)) : List Handshake → List Served → Prop
  | handshake :: handshakes, served :: log =>
    (served.response ≠ .unread →
      (served.response = .replay ↔ (memory.rotate served.swapped).Remembers handshake.nonce)) ∧
      Exact (remember memory handshake served) handshakes log
  | _, _ => True

def TakenAt (handshakes : List Handshake) (log : List Served) (nonce : List UInt8) (i : Nat) :
    Prop :=
  (∃ handshake, handshakes[i]? = some handshake ∧ handshake.nonce = nonce) ∧
    ∃ served, log[i]? = some served ∧ served.response.takes = true

theorem lasts_remember_iff {memory : Generations (List UInt8)} {rotations : Nat} :
    (remember memory handshake served).Lasts nonce rotations ↔
      (handshake.nonce = nonce ∧ served.response.takes = true ∧ rotations ≤ 1) ∨
        memory.Lasts nonce (served.swapped.toNat + rotations) := by
  unfold remember
  cases takes : served.response.takes with
  | true =>
    rw [if_pos rfl, lasts_record_iff, lasts_rotate_iff, eq_comm]
    simp
  | false =>
    rw [if_neg (by decide), lasts_rotate_iff]
    simp

theorem takenAt_zero {handshakes : List Handshake} {log : List Served} :
    TakenAt (handshake :: handshakes) (served :: log) nonce 0 ↔
      handshake.nonce = nonce ∧ served.response.takes = true := by
  simp [TakenAt]

theorem replay_iff_taken (handshakes : List Handshake) :
    ∀ {memory : Generations (List UInt8)} {log : List Served} {k : Nat} {handshake : Handshake}
      {served : Served}, Exact memory handshakes log → handshakes[k]? = some handshake →
      log[k]? = some served → served.response ≠ .unread →
      (served.response = .replay ↔
        memory.Lasts handshake.nonce (((log.map Served.swapped).take (k + 1)).count true) ∨
          ∃ i, i < k ∧ TakenAt handshakes log handshake.nonce i ∧
            swapsBetween (log.map Served.swapped) i k ≤ 1) := by
  induction handshakes with
  | nil =>
    intro memory log k handshake served _ found
    simp at found
  | cons first handshakes ih =>
    intro memory log k handshake served exact found answered read
    cases log with
    | nil => simp at answered
    | cons firstServed log =>
      have ⟨now, later⟩ := exact
      rw [map_cons]
      cases k with
      | zero =>
        have same : first = handshake := by simpa using found
        have sameServed : firstServed = served := by simpa using answered
        subst same sameServed
        rw [now read, ← lasts_zero_iff, lasts_rotate_iff,
          take_succ_cons, count_true_cons]
        simp
      | succ k =>
        rw [ih later found answered read, lasts_remember_iff, Nat.exists_lt_succ_left,
          takenAt_zero, take_succ_cons, count_true_cons]
        simp only [swapsBetween_cons]
        rw [and_assoc, or_assoc]
        exact or_left_comm

/-! ## Runs of the server -/

section Runs

variable (hmac : GoString → List UInt8 → List UInt8) (password : GoString)

structure Answers (hmac : GoString → List UInt8 → List UInt8) (password : GoString)
    (handshake : Handshake) (response : Response) : Prop where
  unread : response = .unread ↔ ¬handshake.Complete
  accepted : response = .accepted ↔ Authenticated hmac password handshake ∧ response ≠ .replay

theorem handleConn_total {filter : ReplayFilter} (sized : filter.Sized) (handshake : Handshake) :
    ∃ next response, handleConn hmac password filter handshake = some (next, response) ∧
      next.Sized ∧ next.window = filter.window ∧
      next.lastSwap =
        (if swaps filter handshake then handshake.time.stamp else filter.lastSwap) ∧
      Answers hmac password handshake response := by
  unfold handleConn swaps
  by_cases complete : handshake.Complete
  · have ⟨next, seen, checked, nextSized, window, last⟩ :=
      checkBytes_total sized complete.nonce_length handshake.time handshake.choices
    simp only [if_pos complete, checked, decide_eq_true complete, Bool.true_and, ← last]
    cases seen with
    | true =>
      exact ⟨next, .replay, rfl, nextSized, window, rfl, by simp [complete], by simp⟩
    | false =>
      by_cases right : handshake.clientMAC = hmac password handshake.nonce
      · exact ⟨next, .accepted, by simp [verifyHMAC, right], nextSized, window, rfl,
          by simp [complete], by simp [Authenticated, complete, right]⟩
      · exact ⟨next, .unauthenticated, by simp [verifyHMAC, right], nextSized, window, rfl,
          by simp [complete], by simp [Authenticated, right]⟩
  · exact ⟨filter, .unread, if_neg complete, sized, rfl, by simp [complete], by simp [complete],
      by simp [Authenticated, complete]⟩

theorem serve_total (handshakes : List Handshake) {filter : ReplayFilter} (sized : filter.Sized) :
    ∃ log : List Served, serve hmac password filter handshakes = some log ∧
      (∀ (i : Nat) (handshake : Handshake), handshakes[i]? = some handshake → ∃ served,
      log[i]? = some served ∧ Answers hmac password handshake served.response) ∧
      log.map Served.swapped = swapFlags (filter.window.tdiv 2) filter.lastSwap handshakes := by
  induction handshakes generalizing filter with
  | nil =>
    exact ⟨[], rfl, by simp, rfl⟩
  | cons handshake handshakes ih =>
    have ⟨next, response, handled, nextSized, window, last, answers⟩ :=
      handleConn_total hmac password sized handshake
    have ⟨log, ran, answered, flags⟩ := ih nextSized
    refine ⟨⟨response, swaps filter handshake⟩ :: log, ?_, ?_, ?_⟩
    · rw [serve, handled]
      dsimp only
      rw [ran, Option.map_some]
    · intro i asked found
      cases i with
      | zero =>
        have same : handshake = asked := by simpa using found
        subst same
        exact ⟨_, rfl, answers⟩
      | succ i => exact answered i asked found
    · rw [map_cons, flags, window, last, swapFlags]
      cases due : swaps filter handshake with
      | true => rw [if_pos rfl, if_pos (swaps_iff.mp due)]
      | false =>
        have early := mt swaps_iff.mpr (ne_true_of_eq_false due)
        rw [if_neg (by decide), if_neg early]

/-- Every handshake of every run is answered, and only an authenticated one that is not taken for a
replay sees anything but the cover page. -/
theorem probes_see_cover (start : Int) (handshakes : List Handshake) :
    ∃ log, serve hmac password (newServerFilter start) handshakes = some log ∧
      ∀ (i : Nat) handshake, handshakes[i]? = some handshake → ∃ served : Served,
        log[i]? = some served ∧ served.response.written =
          if Authenticated hmac password handshake ∧ served.response ≠ .replay then [0x01]
          else 0x00 :: coverPage := by
  have ⟨log, ran, answered, _⟩ := serve_total hmac password handshakes
    (newReplayFilter_sized start 120000000000)
  refine ⟨log, ran, fun i handshake found => ?_⟩
  have ⟨served, present, answers⟩ := answered i handshake found
  refine ⟨served, present, ?_⟩
  simp only [← answers.accepted]
  cases served.response <;> rfl

end Runs

/-- Where the replay filter behaves as an exact set the server answers all handshakes, and an honest
one whose nonce no authenticated one used before is accepted exactly when every earlier one with a
wrong HMAC from which the filter took the same nonce lies at least two swaps back. -/
theorem honest_accepted_iff (hmac : GoString → List UInt8 → List UInt8) (password : GoString)
    (start : Int) (handshakes : List Handshake) (k : Nat) (honest : Handshake)
    (exact : ∀ log, serve hmac password (newServerFilter start) handshakes = some log →
      Exact empty handshakes log)
    (found : handshakes[k]? = some honest) (authenticated : Authenticated hmac password honest)
    (unused : ∀ i, i < k → ∀ earlier, handshakes[i]? = some earlier →
      earlier.nonce = honest.nonce → ¬Authenticated hmac password earlier) :
    ∃ log, serve hmac password (newServerFilter start) handshakes = some log ∧
      (log[k]?.map Served.response = some .accepted ↔
        ∀ i, i < k → ∀ earlier, handshakes[i]? = some earlier → earlier.nonce = honest.nonce →
          log[i]?.map Served.response = some .unauthenticated →
          2 ≤ swapsBetween (swapFlags 60000000000 start handshakes) i k) := by
  have ⟨log, ran, answered, flags⟩ := serve_total hmac password handshakes
    (newReplayFilter_sized start 120000000000)
  have halved : swapFlags 60000000000 start handshakes = log.map Served.swapped := flags.symm
  have ⟨served, present, answers⟩ := answered k honest found
  have read : served.response ≠ .unread := by
    rw [Ne, answers.unread, not_not]
    exact authenticated.1
  have reported := replay_iff_taken handshakes (exact log ran) found present read
  refine ⟨log, ran, ?_⟩
  rw [present, Option.map_some, Option.some_inj, answers.accepted, Ne, reported, halved]
  refine ⟨fun ⟨_, clear⟩ i before earlier foundEarlier same refused => ?_,
    fun apart => ⟨authenticated, ?_⟩⟩
  · -- The filter took the nonce of the refused handshake, so fewer swaps would report this one.
    have ⟨servedEarlier, presentEarlier, isRefused⟩ := Option.map_eq_some_iff.mp refused
    have taken : TakenAt handshakes log honest.nonce i :=
      ⟨⟨earlier, foundEarlier, same⟩, servedEarlier, presentEarlier, by rw [isRefused]; rfl⟩
    exact Nat.lt_of_not_le fun few => clear (.inr ⟨i, before, taken, few⟩)
  · -- Nothing lasts from the start, and what was taken was not authenticated.
    rintro (lasts | ⟨i, before, ⟨⟨earlier, foundEarlier, same⟩, taken⟩, few⟩)
    · exact empty_forgotten lasts.remembers
    · have ⟨servedEarlier, presentEarlier, takes⟩ := taken
      have ⟨answerEarlier, isAnswer, answersEarlier⟩ := answered i earlier foundEarlier
      have sameAnswer := Option.some.inj (presentEarlier.symm.trans isAnswer)
      have notAccepted : servedEarlier.response ≠ .accepted := fun accepted =>
        unused i before earlier foundEarlier same
          (answersEarlier.accepted.mp (sameAnswer ▸ accepted)).1
      have refused := takes_refused takes notAccepted
      have := apart i before earlier foundEarlier same (by rw [presentEarlier, ← refused]; rfl)
      omega

/-- A code in place of the HMAC: the nonce under every password. -/
def echoMAC (_ : GoString) (nonce : List UInt8) : List UInt8 := nonce

theorem bucketSize_positive : 0 < bucketSize := by decide

def sampleHandshake (nonce mac : UInt8) : Handshake where
  received := List.replicate 32 nonce ++ List.replicate 32 mac
  time := ⟨5, 5⟩
  choices := ⟨false, fun _ => ⟨0, bucketSize_positive⟩⟩

def guessed (nonce : UInt8) : List Handshake := [sampleHandshake nonce 9, sampleHandshake 2 2]

theorem guessed_other_nonce : (sampleHandshake 1 9).nonce ≠ (sampleHandshake 2 2).nonce := by
  decide +kernel

theorem guessed_other_exact :
    Exact Generations.empty (guessed 1) [⟨.unauthenticated, false⟩, ⟨.accepted, false⟩] := by
  simp [Exact, guessed, remember, Response.takes, Generations.Remembers, Generations.rotate,
    record, empty, guessed_other_nonce.symm]

theorem guessed_other_earlier {i : Nat} {earlier : Handshake} (before : i < 1)
    (found : (guessed 1)[i]? = some earlier) : earlier.nonce ≠ (sampleHandshake 2 2).nonce := by
  have first : i = 0 := by omega
  subst first
  exact Option.some.inj found ▸ guessed_other_nonce

/-- A wrong HMAC under another nonce does not affect the honest handshake. -/
theorem guessed_other_accepted :
    ∃ log, serve echoMAC (lit "secret") (newServerFilter 0) (guessed 1) = some log ∧
      log[1]?.map Served.response = some .accepted := by
  have exact : ∀ log, serve echoMAC (lit "secret") (newServerFilter 0) (guessed 1) = some log →
      Exact empty (guessed 1) log := by
    intro log ran
    exact Option.some.inj ran ▸ guessed_other_exact
  have ⟨log, ran, accepted⟩ := honest_accepted_iff echoMAC (lit "secret") 0 (guessed 1) 1
    (sampleHandshake 2 2) exact rfl (by decide +kernel)
    (fun _ before _ found same => absurd same (guessed_other_earlier before found))
  exact ⟨log, ran, accepted.mpr fun _ before _ found same =>
    absurd same (guessed_other_earlier before found)⟩

/-- A wrong HMAC under the honest nonce: the filter is an exact set, the first handshake is not
authenticated, and the honest one is refused as a replay of it. -/
theorem guessed_same_refused :
    serve echoMAC (lit "secret") (newServerFilter 0) (guessed 2) =
        some [⟨.unauthenticated, false⟩, ⟨.replay, false⟩] ∧
      Exact Generations.empty (guessed 2) [⟨.unauthenticated, false⟩, ⟨.replay, false⟩] ∧
      ¬Authenticated echoMAC (lit "secret") (sampleHandshake 2 9) ∧
      Authenticated echoMAC (lit "secret") (sampleHandshake 2 2) := by
  have same : (sampleHandshake 2 9).nonce = (sampleHandshake 2 2).nonce := by decide +kernel
  refine ⟨by decide +kernel, ?_, by decide +kernel, by decide +kernel⟩
  simp [Exact, guessed, remember, Response.takes, Generations.Remembers, Generations.rotate,
    Generations.record, Generations.empty, same]

end Shuttle.H3Server
