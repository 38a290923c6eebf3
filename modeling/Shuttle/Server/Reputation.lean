import Shuttle.Go.Text
import Mathlib.Data.List.Pairwise

/-!
# Reputation of addresses

`server/reputation.go` counts an address's failures within a window, bans it when they reach a
limit, and for longer each time until it succeeds. The standing of an address says what bans are
for, with no pruning and no clean-up. Clean-up is not transparent: the record it drops holds the
number of bans.
-/

namespace Shuttle.Server

open Shuttle.Go List

/-! ## The records -/

/-- Limits of the reputation system; times are in nanoseconds. -/
structure ReputationConfig where
  maxFailures : Int
  windowSize : Int
  /-- Length of the first ban, the second and so on; the last one repeats. -/
  banDurations : List Int

def defaultReputationConfig : ReputationConfig :=
  ⟨5, 300000000000, [60000000000, 300000000000, 1800000000000, 86400000000000]⟩

/-- Limits with the defaults in place of those that are not given. -/
def ReputationConfig.withDefaults (config : ReputationConfig) : ReputationConfig where
  maxFailures := if config.maxFailures ≤ 0 then 5 else config.maxFailures
  windowSize := if config.windowSize = 0 then 300000000000 else config.windowSize
  banDurations :=
    if config.banDurations.isEmpty then defaultReputationConfig.banDurations
    else config.banDurations

def ReputationConfig.banDuration (config : ReputationConfig) (bans : Nat) : Int :=
  config.banDurations.getD
    (if config.banDurations.length ≤ bans then config.banDurations.length - 1 else bans) 0

structure IPRecord where
  failures : List Int
  banUntil : Option Int
  banCount : Nat

namespace IPRecord

def blank : IPRecord := ⟨[], none, 0⟩

def banned (record : IPRecord) (now : Int) : Bool := record.banUntil.any fun ends => now < ends

def recordFailure (config : ReputationConfig) (record : IPRecord) (now : Int) : IPRecord × Bool :=
  if record.banned now then (record, true)
  else
    let fresh := record.failures.filter (fun failure => now - config.windowSize < failure) ++ [now]
    if config.maxFailures ≤ fresh.length then
      (⟨[], some (now + config.banDuration record.banCount), record.banCount + 1⟩, true)
    else ({ record with failures := fresh }, false)

/-- Whether clean-up drops the record: its ban has ended and it has no failures. -/
def expired (record : IPRecord) (now : Int) : Bool :=
  record.banUntil.all (fun ends => ends < now) && record.failures.isEmpty

variable {record : IPRecord} {now : Int}

theorem failures_of_expired (expired : record.expired now = true) : record.failures = [] := by
  rw [IPRecord.expired, Bool.and_eq_true, List.isEmpty_iff] at expired
  exact expired.2

theorem not_banned_of_expired (expired : record.expired now = true) {time : Int}
    (later : now ≤ time) : record.banned time = false := by
  rw [IPRecord.expired, Bool.and_eq_true] at expired
  unfold IPRecord.banned
  cases ends : record.banUntil with
  | none => rfl
  | some last =>
    rw [ends, Option.all_some, decide_eq_true_eq] at expired
    exact decide_eq_false (by omega)

end IPRecord

structure Reputation where
  ips : GoMap GoString IPRecord
  config : ReputationConfig

inductive ReputationCall where
  | recordFailure (ip : GoString)
  | recordSuccess (ip : GoString)
  | cleanup
  | isBanned (ip : GoString)
deriving DecidableEq, Repr

namespace Reputation

def new (config : ReputationConfig) : Reputation := ⟨GoMap.empty, config.withDefaults⟩

variable (reputation : Reputation)

def record (ip : GoString) : IPRecord :=
  (reputation.ips ip).getD .blank

def isBanned (now : Int) (ip : GoString) : Bool :=
  match reputation.ips ip with
  | none => false
  | some record => record.banned now

def recordFailure (reputation : Reputation) (now : Int) (ip : GoString) : Reputation × Bool :=
  let outcome := (reputation.record ip).recordFailure reputation.config now
  ({ reputation with ips := reputation.ips.set ip outcome.1 }, outcome.2)

def recordSuccess (ip : GoString) : Reputation :=
  { reputation with ips := reputation.ips.delete ip }

def cleanup (now : Int) : Reputation :=
  { reputation with
    ips := fun ip => (reputation.ips ip).filter fun record => !record.expired now }

def call (now : Int) : ReputationCall → Reputation × Option Bool
  | .recordFailure ip =>
    let outcome := reputation.recordFailure now ip
    (outcome.1, some outcome.2)
  | .recordSuccess ip => (reputation.recordSuccess ip, none)
  | .cleanup => (reputation.cleanup now, none)
  | .isBanned ip => (reputation, some (reputation.isBanned now ip))

def results (reputation : Reputation) : List (Int × ReputationCall) → List Bool
  | [] => []
  | (now, made) :: calls =>
    let outcome := reputation.call now made
    outcome.2.toList ++ outcome.1.results calls

def after (calls : List (Int × ReputationCall)) : Reputation :=
  calls.foldl (fun reputation timed => (reputation.call timed.1 timed.2).1) reputation

end Reputation

/-! ## The standing of an address -/

/-- What the history of an address says about it. -/
structure Standing where
  /-- Every failure since its last ban or success. -/
  failures : List Int
  bans : Nat
  /-- Start and length of the last of these bans. -/
  ban : Option (Int × Int)

namespace Standing

def blank : Standing := ⟨[], 0, none⟩

def banned (standing : Standing) (now : Int) : Bool :=
  standing.ban.any fun ban => ban.1 ≤ now && now < ban.1 + ban.2

/-- A failure outside a ban counts, and starts a ban when it is the last that the window allows. -/
def afterFailure (config : ReputationConfig) (standing : Standing) (now : Int) : Standing × Bool :=
  if standing.banned now then (standing, true)
  else
    let earlier := standing.failures.countP fun failure => now - config.windowSize < failure
    if config.maxFailures ≤ earlier + 1 then
      (⟨[], standing.bans + 1, some (now, config.banDuration standing.bans)⟩, true)
    else ({ standing with failures := standing.failures ++ [now] }, false)

end Standing

abbrev Standings := GoString → Standing

namespace Standings

def fresh : Standings := fun _ => .blank

/-- One call and what it should return; clean-up changes nothing. -/
def call (config : ReputationConfig) (standings : Standings) (now : Int) :
    ReputationCall → Standings × Option Bool
  | .recordFailure ip =>
    let outcome := (standings ip).afterFailure config now
    (Function.update standings ip outcome.1, some outcome.2)
  | .recordSuccess ip => (Function.update standings ip .blank, none)
  | .cleanup => (standings, none)
  | .isBanned ip => (standings, some ((standings ip).banned now))

def results (config : ReputationConfig) (standings : Standings) :
    List (Int × ReputationCall) → List Bool
  | [] => []
  | (now, made) :: calls =>
    let outcome := standings.call config now made
    outcome.2.toList ++ results config outcome.1 calls

end Standings

def InOrder (calls : List (Int × ReputationCall)) : Prop :=
  (calls.map Prod.fst).Pairwise (· ≤ ·)

/-- The time an address stays banned after this many bans. -/
def ReputationConfig.banLength (config : ReputationConfig) (bans : Nat) : Int :=
  max 0 (config.banDuration bans)

def ReputationConfig.Flat (config : ReputationConfig) : Prop :=
  ∀ bans, config.banLength bans = config.banLength 0

/-- Clean-up drops a record of earlier bans although later bans are to be longer or shorter. -/
def Reputation.Forgets (reputation : Reputation) (now : Int) : Prop :=
  ¬reputation.config.Flat ∧
    ∃ ip record, reputation.ips ip = some record ∧ record.expired now = true

/-- No clean-up among the calls drops a record whose number of bans matters. -/
def Reputation.Remembers (reputation : Reputation) (calls : List (Int × ReputationCall)) : Prop :=
  ∀ earlier now later, calls = earlier ++ (now, .cleanup) :: later →
    ¬(reputation.after earlier).Forgets now

/-! ## Records follow standings -/

structure Agrees (config : ReputationConfig) (latest : Int) (record : IPRecord)
    (standing : Standing) : Prop where
  banned : ∀ now, latest ≤ now → record.banned now = standing.banned now
  failures : ∀ now, latest ≤ now →
    record.failures.filter (fun failure => now - config.windowSize < failure) =
      standing.failures.filter fun failure => now - config.windowSize < failure
  bans : record.banCount = standing.bans ∨ config.Flat

namespace Agrees

variable {config : ReputationConfig} {latest now : Int} {record : IPRecord} {standing : Standing}

theorem filter_pruned (config : ReputationConfig) {later : Int} (passed : now ≤ later)
    (failures : List Int) :
    (failures.filter fun failure => now - config.windowSize < failure).filter
        (fun failure => later - config.windowSize < failure) =
      failures.filter fun failure => later - config.windowSize < failure := by
  rw [filter_filter]
  congr 1
  funext failure
  rw [← Bool.decide_and, decide_eq_decide]
  omega

theorem blank (config : ReputationConfig) (latest : Int) :
    Agrees config latest .blank .blank where
  banned := fun _ _ => rfl
  failures := fun _ _ => rfl
  bans := .inl rfl

variable (agrees : Agrees config latest record standing)

include agrees

theorem mono (later : latest ≤ now) : Agrees config now record standing where
  banned := fun time passed => agrees.banned time (Int.le_trans later passed)
  failures := fun time passed => agrees.failures time (Int.le_trans later passed)
  bans := agrees.bans

theorem banLength :
    config.banLength record.banCount = config.banLength standing.bans := by
  rcases agrees.bans with same | flat
  · rw [same]
  · rw [flat, flat standing.bans]

variable (passed : latest ≤ now)

include passed

theorem recordFailure :
    (record.recordFailure config now).2 = (standing.afterFailure config now).2 ∧
      Agrees config now (record.recordFailure config now).1
        (standing.afterFailure config now).1 := by
  have sameBan := agrees.banned now passed
  have sameCount := congrArg List.length (agrees.failures now passed)
  rw [← countP_eq_length_filter (l := standing.failures)] at sameCount
  unfold IPRecord.recordFailure Standing.afterFailure
  by_cases banned : record.banned now = true
  · rw [if_pos banned, if_pos (sameBan.symm.trans banned)]
    exact ⟨rfl, agrees.mono passed⟩
  have isFree : ¬standing.banned now = true := fun isBanned => banned (sameBan.trans isBanned)
  rw [if_neg banned]
  dsimp only
  rw [length_append, length_singleton, sameCount, Int.natCast_add, Int.natCast_one]
  split
  · refine ⟨rfl, fun time later => ?_, fun _ _ => rfl, ?_⟩
    · have length := agrees.banLength
      unfold ReputationConfig.banLength at length
      simp only [IPRecord.banned, Standing.banned, Option.any_some]
      rw [← Bool.decide_and, decide_eq_decide]
      omega
    · exact agrees.bans.imp (congrArg (· + 1)) id
  · refine ⟨rfl, fun time later => agrees.banned time (Int.le_trans passed later),
      fun time later => ?_, agrees.bans⟩
    rw [filter_append, filter_append, filter_pruned config later,
      agrees.failures time (Int.le_trans passed later)]

theorem expired (expired : record.expired now = true) (flat : config.Flat) :
    Agrees config now .blank standing := by
  refine ⟨fun time later => ?_, fun time later => ?_, .inr flat⟩
  · rw [← agrees.banned time (Int.le_trans passed later),
      IPRecord.not_banned_of_expired expired later]
    rfl
  · rw [← agrees.failures time (Int.le_trans passed later), IPRecord.failures_of_expired expired]
    rfl

end Agrees

/-! ## Reputations follow standings -/

namespace Reputation

variable {reputation : Reputation} {standings : Standings} {latest now : Int}

/-- From a time on every record answers as the standing of its address. -/
def Follows (reputation : Reputation) (latest : Int) (standings : Standings) : Prop :=
  ∀ ip, Agrees reputation.config latest (reputation.record ip) (standings ip)

theorem call_config (now : Int) (made : ReputationCall) :
    (reputation.call now made).1.config = reputation.config := by
  cases made <;> rfl

theorem record_set (ip other : GoString) (changed : IPRecord) :
    ({ reputation with ips := reputation.ips.set ip changed } : Reputation).record other =
      if other = ip then changed else reputation.record other := by
  unfold record GoMap.set
  dsimp only
  rw [Function.update_apply]
  split <;> rfl

theorem record_recordSuccess (ip other : GoString) :
    (reputation.recordSuccess ip).record other =
      if other = ip then .blank else reputation.record other := by
  unfold record recordSuccess GoMap.delete
  dsimp only
  rw [Function.update_apply]
  split <;> rfl

theorem record_cleanup (now : Int) (ip : GoString) :
    (reputation.cleanup now).record ip = reputation.record ip ∨
      (reputation.cleanup now).record ip = .blank ∧
        ∃ record, reputation.ips ip = some record ∧ record.expired now = true := by
  unfold record cleanup
  dsimp only
  cases found : reputation.ips ip with
  | none => exact .inl rfl
  | some record =>
    cases expired : record.expired now with
    | false =>
      rw [Option.filter_some_pos (by rw [expired]; rfl)]
      exact .inl rfl
    | true =>
      rw [Option.filter_some_neg (by rw [expired]; decide)]
      exact .inr ⟨rfl, record, rfl, expired⟩

theorem record_of_some {ip : GoString} {record : IPRecord}
    (found : reputation.ips ip = some record) : reputation.record ip = record := by
  rw [Reputation.record, found, Option.getD_some]

theorem record_cleanup_expired {ip : GoString} {record : IPRecord}
    (found : reputation.ips ip = some record) (expired : record.expired now = true) :
    (reputation.cleanup now).record ip = .blank := by
  unfold Reputation.record cleanup
  dsimp only
  rw [found, Option.filter_some_neg (by rw [expired]; decide)]
  rfl

theorem cleanup_eq_self
    (kept : ∀ ip record, reputation.ips ip = some record → record.expired now = false) :
    reputation.cleanup now = reputation := by
  unfold cleanup
  congr 1
  funext ip
  cases found : reputation.ips ip with
  | none => rfl
  | some record =>
    refine Option.filter_some_pos ?_
    rw [kept ip record found]
    rfl

theorem record_recordFailure (now : Int) (ip : GoString) :
    (reputation.recordFailure now ip).1.record ip =
      ((reputation.record ip).recordFailure reputation.config now).1 := by
  rw [recordFailure, record_set, if_pos rfl]

theorem results_recordFailure (now : Int) (ip : GoString) (calls : List (Int × ReputationCall)) :
    reputation.results ((now, .recordFailure ip) :: calls) =
      ((reputation.record ip).recordFailure reputation.config now).2 ::
        (reputation.recordFailure now ip).1.results calls :=
  rfl

theorem isBanned_eq (now : Int) (ip : GoString) :
    reputation.isBanned now ip = (reputation.record ip).banned now := by
  unfold isBanned record
  cases reputation.ips ip <;> rfl

theorem Follows.call (follows : reputation.Follows latest standings) (passed : latest ≤ now)
    (made : ReputationCall) (remembers : made = .cleanup → ¬reputation.Forgets now) :
    (reputation.call now made).2 = (standings.call reputation.config now made).2 ∧
      (reputation.call now made).1.Follows now (standings.call reputation.config now made).1 := by
  cases made with
  | recordFailure ip =>
    have ⟨answer, agrees⟩ := (follows ip).recordFailure passed
    refine ⟨congrArg some answer, fun other => ?_⟩
    dsimp only [Reputation.call, Reputation.recordFailure, Standings.call]
    rw [record_set, Function.update_apply]
    split
    · exact agrees
    · exact (follows other).mono passed
  | recordSuccess ip =>
    refine ⟨rfl, fun other => ?_⟩
    dsimp only [Reputation.call, Standings.call]
    rw [record_recordSuccess, Function.update_apply]
    split
    · exact Agrees.blank _ now
    · exact (follows other).mono passed
  | cleanup =>
    refine ⟨rfl, fun ip => ?_⟩
    dsimp only [Reputation.call, Standings.call]
    rcases @record_cleanup reputation now ip with kept | ⟨dropped, record, found, expired⟩
    · rw [kept]
      exact (follows ip).mono passed
    · have flat : reputation.config.Flat := by
        by_contra escalates
        exact remembers rfl ⟨escalates, ip, record, found, expired⟩
      have agrees := follows ip
      rw [record_of_some found] at agrees
      rw [dropped]
      exact agrees.expired passed expired flat
  | isBanned ip =>
    refine ⟨?_, fun other => (follows other).mono passed⟩
    rw [Reputation.call, Standings.call, isBanned_eq, (follows ip).banned now passed]

variable {calls : List (Int × ReputationCall)}

theorem Remembers.rest {made : ReputationCall}
    (remembers : reputation.Remembers ((now, made) :: calls)) :
    (reputation.call now made).1.Remembers calls := by
  intro earlier time later split
  exact remembers ((now, made) :: earlier) time later (by rw [split, cons_append])

theorem Follows.results (calls : List (Int × ReputationCall))
    (follows : reputation.Follows latest standings) (passed : ∀ timed ∈ calls, latest ≤ timed.1)
    (ordered : InOrder calls) (remembers : reputation.Remembers calls) :
    reputation.results calls = standings.results reputation.config calls := by
  induction calls generalizing reputation standings latest with
  | nil => rfl
  | cons timed calls ih =>
    have ⟨now, made⟩ := timed
    have ⟨first, others⟩ := pairwise_cons.mp ordered
    have ⟨answer, next⟩ := follows.call (passed _ mem_cons_self) made
      fun isCleanup => remembers [] now calls (by rw [isCleanup]; rfl)
    rw [Reputation.results, Standings.results, answer,
      ih next (fun timed made => first timed.1 (mem_map_of_mem made)) others remembers.rest,
      call_config]

theorem follows_new (config : ReputationConfig) (latest : Int) :
    (new config).Follows latest .fresh :=
  fun _ => Agrees.blank _ latest

theorem remembers_of_no_cleanup
    (none : ∀ timed ∈ calls, timed.2 ≠ .cleanup) : reputation.Remembers calls := by
  intro earlier now later split
  have present : (now, ReputationCall.cleanup) ∈ calls := by
    rw [split]
    exact mem_append_right earlier mem_cons_self
  exact absurd rfl (none _ present)

end Reputation

theorem Standings.results_without_cleanup (config : ReputationConfig)
    (calls : List (Int × ReputationCall)) :
    ∀ standings : Standings,
      standings.results config (calls.filter fun timed => timed.2 ≠ .cleanup) =
        standings.results config calls := by
  induction calls with
  | nil => exact fun _ => rfl
  | cons timed calls ih =>
    intro standings
    have ⟨now, made⟩ := timed
    by_cases isCleanup : made = .cleanup
    · rw [filter_cons_of_neg (by simp [isCleanup]), ih, isCleanup]
      rfl
    · rw [filter_cons_of_pos (by simp [isCleanup]), results, results, ih]

/-! ## What a forgotten ban changes -/

structure IPRecord.Sound (config : ReputationConfig) (latest : Int) (record : IPRecord) : Prop where
  past : ∀ failure ∈ record.failures, failure ≤ latest
  bannable : record.failures = [] →
    1 ≤ record.banCount ∧ (0 < config.windowSize ∨ config.maxFailures ≤ 1)

namespace IPRecord

variable {config : ReputationConfig} {latest now : Int} {record : IPRecord}

theorem Sound.recordFailure (sound : record = .blank ∨ record.Sound config latest)
    (passed : latest ≤ now) : (record.recordFailure config now).1.Sound config now := by
  have past : ∀ failure ∈ record.failures, failure ≤ now := by
    rcases sound with isBlank | sound
    · rw [isBlank]
      exact nofun
    · exact fun failure present => Int.le_trans (sound.past failure present) passed
  unfold IPRecord.recordFailure
  split
  · rename_i banned
    rcases sound with isBlank | sound
    · rw [isBlank] at banned
      cases banned
    · exact ⟨past, sound.bannable⟩
  · dsimp only
    split
    · rename_i reached
      refine ⟨nofun, fun _ => ⟨Nat.le_add_left 1 _, ?_⟩⟩
      by_cases positive : 0 < config.windowSize
      · exact .inl positive
      · -- Without a window no earlier failure counts.
        have none : record.failures.filter (fun failure => now - config.windowSize < failure) =
            [] := filter_eq_nil_iff.mpr fun failure present => by
          have := past failure present
          simp only [decide_eq_true_eq]
          omega
        rw [none] at reached
        exact .inr reached
    · refine ⟨fun failure present => ?_, fun empty => absurd empty (by simp)⟩
      rcases mem_append.mp present with kept | added
      · exact past failure (mem_filter.mp kept).1
      · exact Int.le_of_eq (mem_singleton.mp added)

end IPRecord

namespace Reputation

variable {reputation : Reputation} {latest now : Int}

def Sound (reputation : Reputation) (latest : Int) : Prop :=
  ∀ ip record, reputation.ips ip = some record → record.Sound reputation.config latest

theorem Sound.mono (sound : reputation.Sound latest) (passed : latest ≤ now) :
    reputation.Sound now := fun ip record found =>
  ⟨fun failure present => Int.le_trans ((sound ip record found).past failure present) passed,
    (sound ip record found).bannable⟩

theorem Sound.call (sound : reputation.Sound latest) (passed : latest ≤ now)
    (made : ReputationCall) : (reputation.call now made).1.Sound now := by
  have kept := sound.mono passed
  cases made with
  | recordFailure ip =>
    intro other record found
    rcases GoMap.set_eq_some_iff.mp found with ⟨_, isNew⟩ | ⟨_, before⟩
    · rw [← isNew]
      refine IPRecord.Sound.recordFailure ?_ passed
      unfold Reputation.record
      cases present : reputation.ips ip with
      | none => exact .inl rfl
      | some old => exact .inr (sound ip old present)
    · exact kept other record before
  | recordSuccess ip =>
    exact fun other record found => kept other record (GoMap.delete_eq_some_iff.mp found).2
  | cleanup =>
    exact fun other record found => kept other record (Option.filter_eq_some_iff.mp found).1
  | isBanned ip => exact kept

theorem Sound.after (calls : List (Int × ReputationCall)) {reputation : Reputation} {latest : Int}
    (sound : reputation.Sound latest) (within : ∀ timed ∈ calls, latest ≤ timed.1 ∧ timed.1 ≤ now)
    (passed : latest ≤ now) (ordered : InOrder calls) : (reputation.after calls).Sound now := by
  induction calls generalizing reputation latest with
  | nil => exact sound.mono passed
  | cons timed calls ih =>
    have ⟨time, made⟩ := timed
    have ⟨first, others⟩ := pairwise_cons.mp ordered
    have ⟨since, before⟩ := within _ mem_cons_self
    exact ih (sound.call since made) (fun timed present =>
      ⟨first timed.1 (mem_map_of_mem present), (within timed (mem_cons_of_mem _ present)).2⟩)
      before others

end Reputation

end Shuttle.Server
