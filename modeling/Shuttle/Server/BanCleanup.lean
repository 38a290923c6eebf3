import Shuttle.Server.Reputation

/-!
# Clean-up between bans

A clean-up that drops an address's record sets its number of bans back to none. Two reputations
that differ in this number are told apart by rounds of failures, each at the end of the ban before,
until a ban of another length starts. So a clean-up can be seen by later calls exactly when it
drops a record and the lengths of bans differ.
-/

namespace Shuttle.Server

open Shuttle.Go List Reputation

/-! ## Telling two reputations apart -/

def IPRecord.bannedAt (config : ReputationConfig) (record : IPRecord) (now : Int) : IPRecord :=
  ⟨[], some (now + config.banDuration record.banCount), record.banCount + 1⟩

structure Ready (config : ReputationConfig) (reputation : Reputation) (ip : GoString) (now : Int) :
    Prop where
  config : reputation.config = config
  failures : (reputation.record ip).failures = []
  isFree : (reputation.record ip).banned now = false

/-- Some calls from a time on return different results. -/
def Apart (left right : Reputation) (now : Int) : Prop :=
  ∃ later : List (Int × ReputationCall), (∀ timed ∈ later, now ≤ timed.1) ∧ InOrder later ∧
    left.results later ≠ right.results later

section Rounds

variable {config : ReputationConfig} {ip : GoString} {now : Int}

theorem apart_of_lengths {first second : Reputation} {left right : IPRecord}
    (firstBanned : first.record ip = left.bannedAt config now)
    (secondBanned : second.record ip = right.bannedAt config now)
    (differ : config.banLength left.banCount ≠ config.banLength right.banCount) :
    Apart first second now := by
  unfold ReputationConfig.banLength at differ
  let ends := now + min (max 0 (config.banDuration left.banCount))
    (max 0 (config.banDuration right.banCount))
  refine ⟨[(ends, .isBanned ip)], fun timed only => ?_, pairwise_singleton _ _, fun same => ?_⟩
  · rw [mem_singleton.mp only]
    omega
  · dsimp only [Reputation.results, Reputation.call, Option.toList] at same
    rw [isBanned_eq, isBanned_eq, firstBanned, secondBanned] at same
    have answers := (cons.inj same).1
    simp only [IPRecord.bannedAt, IPRecord.banned, Option.any_some, decide_eq_decide]
      at answers
    omega

section

variable (bannable : 0 < config.windowSize ∨ config.maxFailures ≤ 1)

include bannable

theorem window_replicate {past : Nat} (few : past < config.maxFailures) :
    (replicate past now).filter (fun failure => now - config.windowSize < failure) =
      replicate past now := by
  rcases bannable with positive | single
  · exact filter_replicate_of_pos (decide_eq_true (by omega))
  · have none : past = 0 := by omega
    rw [none]
    rfl

theorem recordFailure_last {record : IPRecord} {past : Nat} (total : past + 1 = config.maxFailures)
    (failures : record.failures = replicate past now) (isFree : record.banned now = false) :
    record.recordFailure config now = (record.bannedAt config now, true) := by
  unfold IPRecord.recordFailure
  rw [isFree, if_neg Bool.false_ne_true, failures, window_replicate bannable (by omega)]
  exact if_pos (by simp; omega)

theorem recordFailure_before_last
    {record : IPRecord} {past : Nat} (few : past + 1 < config.maxFailures)
    (failures : record.failures = replicate past now) (isFree : record.banned now = false) :
    record.recordFailure config now =
      ({ record with failures := replicate (past + 1) now }, false) := by
  unfold IPRecord.recordFailure
  rw [isFree, if_neg Bool.false_ne_true, failures, window_replicate bannable (by omega),
    ← replicate_succ']
  exact if_neg (by simp; omega)

theorem results_failures (missing : Nat) {reputation : Reputation} {past : Nat}
    (same : reputation.config = config) (total : past + (missing + 1) = config.maxFailures)
    (failures : (reputation.record ip).failures = replicate past now)
    (isFree : (reputation.record ip).banned now = false) :
    ∃ next : Reputation, next.config = config ∧
      next.record ip = (reputation.record ip).bannedAt config now ∧ ∀ later,
      reputation.results (replicate (missing + 1) (now, .recordFailure ip) ++ later) =
      replicate missing false ++ true :: next.results later := by
  induction missing generalizing reputation past with
  | zero =>
    have banned := recordFailure_last bannable (by omega) failures isFree
    rw [← same] at banned
    refine ⟨(reputation.recordFailure now ip).1, same, ?_, fun later => ?_⟩
    · rw [record_recordFailure, banned, same]
    · rw [replicate_one, singleton_append, results_recordFailure, banned]
      rfl
  | succ missing ih =>
    have counted := recordFailure_before_last bannable (by omega) failures isFree
    rw [← same] at counted
    have stored : (reputation.recordFailure now ip).1.record ip =
        { reputation.record ip with failures := replicate (past + 1) now } := by
      rw [record_recordFailure, counted]
    have ⟨next, nextSame, banned, results⟩ := @ih (reputation.recordFailure now ip).1 (past + 1)
      same (by omega) (by rw [stored]) (by rw [stored]; exact isFree)
    refine ⟨next, nextSame, by rw [banned, stored]; rfl, fun later => ?_⟩
    rw [replicate_succ, cons_append, results_recordFailure, results, counted]
    rfl

variable (positive : 1 ≤ config.maxFailures)

include positive

theorem Ready.round {reputation : Reputation} (ready : Ready config reputation ip now) :
    ∃ next : Reputation, next.config = config ∧
      next.record ip = (reputation.record ip).bannedAt config now ∧
      ∀ later, reputation.results
          (replicate config.maxFailures.toNat (now, .recordFailure ip) ++ later) =
        replicate (config.maxFailures.toNat - 1) false ++ true :: next.results later := by
  have total : ((0 : Nat) : Int) + ((config.maxFailures.toNat - 1 : Nat) + 1) =
      config.maxFailures := by omega
  have succ : config.maxFailures.toNat - 1 + 1 = config.maxFailures.toNat := by omega
  have run := results_failures bannable _ ready.config total ready.failures ready.isFree
  rwa [succ] at run

theorem apart_of_round {left right : Reputation} (leftReady : Ready config left ip now)
    (rightReady : Ready config right ip now)
    (apart : ∀ {first second : Reputation}, first.config = config → second.config = config →
      first.record ip = (left.record ip).bannedAt config now →
      second.record ip = (right.record ip).bannedAt config now → Apart first second now) :
    Apart left right now := by
  have ⟨first, firstSame, firstBanned, firstResults⟩ := leftReady.round bannable positive
  have ⟨second, secondSame, secondBanned, secondResults⟩ := rightReady.round bannable positive
  have ⟨later, passed, ordered, differ⟩ := apart firstSame secondSame firstBanned secondBanned
  refine ⟨replicate config.maxFailures.toNat (now, .recordFailure ip) ++ later,
    fun timed present => ?_, ?_, fun same => ?_⟩
  · rcases mem_append.mp present with inRound | inLater
    · exact Int.le_of_eq (congrArg Prod.fst (eq_of_mem_replicate inRound)).symm
    · exact passed timed inLater
  · unfold InOrder
    rw [map_append, map_replicate, pairwise_append]
    refine ⟨pairwise_replicate.mpr (.inr (Int.le_refl now)), ordered, ?_⟩
    intro time inRound other inLater
    have ⟨timed, present, same⟩ := mem_map.mp inLater
    rw [eq_of_mem_replicate inRound, ← same]
    exact passed timed present
  · rw [firstResults, secondResults] at same
    exact differ (cons.inj (append_cancel_left same)).2

theorem apart_of_later_length (more : Nat) {left right : Reputation} {now : Int}
    (leftReady : Ready config left ip now) (rightReady : Ready config right ip now)
    (differ : config.banLength ((left.record ip).banCount + more) ≠
      config.banLength ((right.record ip).banCount + more)) : Apart left right now := by
  induction more generalizing left right now with
  | zero =>
    exact apart_of_round bannable positive leftReady rightReady
      fun _ _ firstBanned secondBanned => apart_of_lengths firstBanned secondBanned differ
  | succ more ih =>
    refine apart_of_round bannable positive leftReady rightReady ?_
    intro first second firstSame secondSame firstBanned secondBanned
    by_cases same : config.banLength (left.record ip).banCount =
        config.banLength (right.record ip).banCount
    · -- Both bans end at the same time, and the next round starts there.
      have firstLong : config.banDuration (left.record ip).banCount ≤
          config.banLength (left.record ip).banCount := Int.le_max_right _ _
      have secondLong : config.banDuration (right.record ip).banCount ≤
          config.banLength (left.record ip).banCount := same ▸ Int.le_max_right _ _
      have waits : 0 ≤ config.banLength (left.record ip).banCount := Int.le_max_left _ _
      have ⟨later, passed, ordered, told⟩ := @ih first second
        (now + config.banLength (left.record ip).banCount)
        ⟨firstSame, by rw [firstBanned]; rfl, by
          rw [firstBanned]; exact decide_eq_false (by omega)⟩
        ⟨secondSame, by rw [secondBanned]; rfl, by
          rw [secondBanned]; exact decide_eq_false (by omega)⟩
        (by
          rw [firstBanned, secondBanned, IPRecord.bannedAt, IPRecord.bannedAt]
          rw [Nat.add_right_comm, Nat.add_right_comm (right.record ip).banCount]
          exact differ)
      exact ⟨later, fun timed present => by
        have := passed timed present
        omega, ordered, told⟩
    · exact apart_of_lengths firstBanned secondBanned same

end

theorem flat_of_shift {bans : Nat} (some : 1 ≤ bans)
    (shift : ∀ more, config.banLength (bans + more) = config.banLength more) : config.Flat := by
  -- Far enough on, every ban has the last length.
  have far : ∀ steps more, config.banLength (steps * bans + more) = config.banLength more := by
    intro steps
    induction steps with
    | zero => exact fun more => by rw [Nat.zero_mul, Nat.zero_add]
    | succ steps ih =>
      intro more
      rw [Nat.succ_mul, Nat.add_assoc, ih, shift]
  have last : ∀ more, config.banLength (config.banDurations.length * bans + more) =
      max 0 (config.banDurations.getD (config.banDurations.length - 1) 0) := by
    intro more
    have long : config.banDurations.length ≤ config.banDurations.length * bans + more :=
      Nat.le_trans (Nat.le_mul_of_pos_right _ some) (Nat.le_add_right _ _)
    rw [ReputationConfig.banLength, ReputationConfig.banDuration, if_pos long]
  intro bans
  rw [← far config.banDurations.length bans, last, ← far config.banDurations.length 0, last]

end Rounds

namespace Reputation

variable {reputation : Reputation} {now : Int}

/-- A standing that a reputation follows from a time on. -/
def standings (reputation : Reputation) (now : Int) : Standings := fun ip =>
  let record := reputation.record ip
  ⟨record.failures, record.banCount, record.banUntil.map fun ends => (now, ends - now)⟩

theorem follows_standings (reputation : Reputation) (now : Int) :
    reputation.Follows now (reputation.standings now) := by
  intro ip
  refine ⟨fun time later => ?_, fun _ _ => rfl, .inl rfl⟩
  unfold standings IPRecord.banned Standing.banned
  dsimp only
  cases (reputation.record ip).banUntil with
  | none => rfl
  | some ends =>
    rw [Option.map_some, Option.any_some, Option.any_some, ← Bool.decide_and, decide_eq_decide]
    omega

theorem after_config (calls : List (Int × ReputationCall)) :
    ∀ reputation : Reputation, (reputation.after calls).config = reputation.config := by
  induction calls with
  | nil => exact fun _ => rfl
  | cons timed calls ih => exact fun reputation => (ih _).trans (call_config timed.1 timed.2)

theorem remembers_of_flat (flat : reputation.config.Flat) (calls : List (Int × ReputationCall)) :
    reputation.Remembers calls :=
  fun earlier _ _ _ forgets => forgets.1 ((after_config earlier reputation).symm ▸ flat)

theorem cleanup_transparent (sound : reputation.Sound now)
    (positive : 1 ≤ reputation.config.maxFailures) :
    (∀ later : List (Int × ReputationCall), (∀ timed ∈ later, now ≤ timed.1) → InOrder later →
      (reputation.cleanup now).results later = reputation.results later) ↔
      ¬reputation.Forgets now := by
  constructor
  · intro transparent ⟨escalates, ip, record, found, expired⟩
    have empty := IPRecord.failures_of_expired expired
    have ⟨wasBanned, bannable⟩ := (sound ip record found).bannable empty
    have known := record_of_some found
    have dropped := record_cleanup_expired found expired
    have isFree := IPRecord.not_banned_of_expired expired (Int.le_refl now)
    have ⟨more, differ⟩ : ∃ more, reputation.config.banLength (record.banCount + more) ≠
        reputation.config.banLength more := by
      by_contra alike
      exact escalates (flat_of_shift wasBanned fun more =>
        not_not.mp fun differ => alike ⟨more, differ⟩)
    have ⟨later, passed, ordered, told⟩ := @apart_of_later_length reputation.config ip bannable
      positive more reputation (reputation.cleanup now) now
      ⟨rfl, by rw [known, empty], by rw [known, isFree]⟩
      ⟨rfl, by rw [dropped]; rfl, by rw [dropped]; rfl⟩
      (by rw [known, dropped, IPRecord.blank, Nat.zero_add]; exact differ)
    exact told (transparent later passed ordered).symm
  · intro keeps later passed ordered
    by_cases flat : reputation.config.Flat
    · have follows := reputation.follows_standings now
      have cleaned := (follows.call (Int.le_refl now) .cleanup fun _ => keeps).2
      rw [follows.results later passed ordered (remembers_of_flat flat later)]
      have alike : (reputation.cleanup now).config.Flat := flat
      exact Follows.results later cleaned passed ordered (remembers_of_flat alike later)
    · rw [cleanup_eq_self]
      intro ip record found
      rw [Bool.eq_false_iff]
      exact fun expired => keeps ⟨flat, ip, record, found, expired⟩

end Reputation

theorem withDefaults_positive (config : ReputationConfig) :
    1 ≤ config.withDefaults.maxFailures := by
  unfold ReputationConfig.withDefaults
  dsimp only
  split <;> omega

/-- For calls in order: unless a clean-up forgets a number of bans that matters, the results are
those of the standings, with clean-ups or without; and a clean-up changes no later result exactly
when it does not forget such a number. -/
theorem bans_lawful_unless_forgotten (config : ReputationConfig)
    (calls : List (Int × ReputationCall)) (ordered : InOrder calls) :
    ((Reputation.new config).Remembers calls →
      (Reputation.new config).results calls =
          Standings.fresh.results config.withDefaults calls ∧
        (Reputation.new config).results calls =
          (Reputation.new config).results (calls.filter fun timed => timed.2 ≠ .cleanup)) ∧
      ∀ now, (∀ timed ∈ calls, timed.1 ≤ now) →
        ((∀ later : List (Int × ReputationCall), (∀ timed ∈ later, now ≤ timed.1) →
          InOrder later →
          (((Reputation.new config).after calls).cleanup now).results later =
            ((Reputation.new config).after calls).results later) ↔
          ¬((Reputation.new config).after calls).Forgets now) := by
  -- The first call is the earliest one.
  have ⟨first, earliest⟩ : ∃ first, ∀ timed ∈ calls, first ≤ timed.1 := by
    cases calls with
    | nil => exact ⟨0, nofun⟩
    | cons timed calls =>
      refine ⟨timed.1, fun other present => ?_⟩
      rcases mem_cons.mp present with same | later
      · exact Int.le_of_eq (congrArg Prod.fst same).symm
      · exact (pairwise_cons.mp ordered).1 other.1 (mem_map_of_mem later)
  refine ⟨fun remembers => ?_, fun now passed => ?_⟩
  · have lawful := (follows_new config first).results calls earliest ordered remembers
    refine ⟨lawful, lawful.trans ?_⟩
    have others : ∀ timed ∈ calls.filter (fun timed => timed.2 ≠ .cleanup),
        timed ∈ calls ∧ timed.2 ≠ .cleanup := fun timed present => by
      simpa using mem_filter.mp present
    rw [(follows_new config first).results _
      (fun timed present => earliest timed (others timed present).1)
      (List.Pairwise.sublist (filter_sublist.map _) ordered)
      (remembers_of_no_cleanup fun timed present => (others timed present).2)]
    exact (Standings.results_without_cleanup _ calls _).symm
  · have fresh : (Reputation.new config).Sound (min first now) :=
      fun ip record found => Option.some_ne_none record found.symm |>.elim
    have sound := fresh.after calls
      (fun timed present => ⟨Int.le_trans (Int.min_le_left _ _) (earliest timed present),
        passed timed present⟩) (Int.min_le_right _ _) ordered
    exact cleanup_transparent sound
      ((after_config calls (new config)).symm ▸ withDefaults_positive config)

def uniform : ReputationConfig := ⟨1, 5, [10]⟩

theorem uniform_flat : uniform.withDefaults.Flat := by
  intro bans
  cases bans with
  | zero | succ bans => rfl

def cleanedRun : List (Int × ReputationCall) :=
  [(0, .recordFailure []), (20, .cleanup), (30, .recordFailure []), (50, .isBanned [])]

theorem uniform_bans_lawful :
    InOrder cleanedRun ∧ (Reputation.new uniform).Remembers cleanedRun ∧
      (Reputation.new uniform).results cleanedRun = [true, true, false] := by
  have ordered : InOrder cleanedRun := by
    unfold InOrder
    decide
  have remembers : (Reputation.new uniform).Remembers cleanedRun :=
    remembers_of_flat uniform_flat cleanedRun
  refine ⟨ordered, remembers, ?_⟩
  rw [((bans_lawful_unless_forgotten uniform cleanedRun ordered).1 remembers).1]
  decide

def escalating : ReputationConfig := ⟨1, 5, [10, 100]⟩

/-- A clean-up between two bans shortens the second one: at time 50 the address should be banned,
and is when the clean-up is left out. -/
theorem cleanup_shortens_ban :
    InOrder cleanedRun ∧
      (Reputation.new escalating).results cleanedRun = [true, true, false] ∧
      Standings.fresh.results escalating.withDefaults cleanedRun = [true, true, true] ∧
      (Reputation.new escalating).results (cleanedRun.filter fun timed => timed.2 ≠ .cleanup) =
        [true, true, true] := by
  unfold InOrder
  decide

end Shuttle.Server
