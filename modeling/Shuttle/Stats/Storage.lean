import Shuttle.Go.Text
import Shuttle.Lib.Lists
import Shuttle.Lib.Machine

/-!
# The traffic statistics and their file

The storage keeps one entry for each day in memory and writes all of them to a file. A save copies
the entries with a generation under the lock, writes the file without it, and clears the dirty flag
if the generation is still the one it copied. Cleaning does not advance the generation, and nothing
keeps two saves apart.
-/

namespace Shuttle.Stats

open Shuttle.Go Shuttle.Lib List

/-! ## Days -/

/-- The order `<` of Go strings: byte by byte, a shorter text first. -/
def textLess : GoString → GoString → Bool
  | _, [] => false
  | [], _ :: _ => true
  | left :: lefts, right :: rights =>
    if left < right then true else if right < left then false else textLess lefts rights

structure DailyStats where
  /-- The day as `YYYY-MM-DD`. -/
  date : GoString
  bytesSent : Int64
  bytesReceived : Int64
  connections : Int64
deriving DecidableEq

/-- The map from a date to its statistics, listed by date; a date has one entry. -/
abbrev Daily := List DailyStats

def put (entry : DailyStats) : Daily → Daily
  | [] => [entry]
  | first :: rest =>
    if textLess entry.date first.date then entry :: first :: rest
    else if textLess first.date entry.date then first :: put entry rest
    else entry :: rest

/-! ## The storage -/

inductive StatsFile where
  | missing
  /-- What loading it makes of its JSON array. -/
  | stats (days : Daily)
  /-- Something that is no such array, as a write that failed half-way leaves it. -/
  | broken

/-- The map read from the file; none when the file can not be parsed. -/
def load : StatsFile → Option Daily
  | .missing => some []
  | .stats days => some days
  | .broken => none

inductive SaveStage where
  /-- It has copied the generation and the entries. -/
  | writing (snapGen : UInt64) (stats : Daily)
  | checking (snapGen : UInt64)
  | done
deriving DecidableEq

structure Storage where
  stats : Daily
  dirty : Bool
  gen : UInt64
  lastSent : Int64
  lastReceived : Int64
  file : StatsFile
  /-- The saves that took a snapshot, in the order of the snapshots. -/
  saves : List SaveStage

def newStorage (file : StatsFile) : Option Storage :=
  (load file).map fun stats => ⟨stats, false, 0, 0, 0, file, []⟩

def addDelta (counter total last : Int64) : Int64 :=
  if total - last > 0 then counter + (total - last) else counter

variable (storage : Storage)

def Storage.record (today : GoString) (bytesSent bytesReceived connections : Int64) : Storage :=
  let entry := (storage.stats.find? (·.date == today)).getD ⟨today, 0, 0, 0⟩
  { storage with
    stats := put
      ⟨entry.date, addDelta entry.bytesSent bytesSent storage.lastSent,
        addDelta entry.bytesReceived bytesReceived storage.lastReceived,
        entry.connections + connections⟩ storage.stats
    lastSent := bytesSent
    lastReceived := bytesReceived
    dirty := true
    gen := storage.gen + 1 }

/-- The dates before the cutoff removed; the flag is set when there was one. -/
def Storage.clean (cutoff : GoString) : Storage :=
  { storage with
    stats := storage.stats.filter fun entry => !textLess entry.date cutoff
    dirty := storage.dirty || storage.stats.any fun entry => textLess entry.date cutoff }

inductive Event where
  | record (today : GoString) (bytesSent bytesReceived connections : Int64)
  | clean (cutoff : GoString)
  /-- A save looks at the flag and takes its snapshot. -/
  | snapshot
  /-- A save writes the file, or fails and leaves a file behind. -/
  | write (index : Nat) (failure : Option StatsFile)
  | check (index : Nat)

def step : Event → Option Storage
  | .record today bytesSent bytesReceived connections =>
    some (storage.record today bytesSent bytesReceived connections)
  | .clean cutoff => some (storage.clean cutoff)
  | .snapshot =>
    if storage.dirty then
      some { storage with saves := storage.saves ++ [.writing storage.gen storage.stats] }
    else some storage
  | .write index failure =>
    match storage.saves[index]? with
    | some (.writing snapGen stats) =>
      match failure with
      | none =>
        some { storage with
          file := .stats stats
          saves := storage.saves.set index (.checking snapGen) }
      | some left => some { storage with file := left, saves := storage.saves.set index .done }
    | _ => none
  | .check index =>
    match storage.saves[index]? with
    | some (.checking snapGen) =>
      some { storage with
        dirty := if storage.gen = snapGen then false else storage.dirty
        saves := storage.saves.set index .done }
    | _ => none

def machine : Machine Storage Event := ⟨step⟩

/-! ## What the flag promises -/

def Storage.InFile : Prop := load storage.file = some storage.stats

/-- With no save in progress and the flag cleared the file holds what is in memory. -/
def Persisted : Prop :=
  (∀ save ∈ storage.saves, save = .done) → storage.dirty = false → storage.InFile

/-- A save that would clear the flag now has the entries in memory to write or has written them. -/
def SaveStage.Agrees : SaveStage → Prop
  | .writing snapGen stats => storage.gen = snapGen → stats = storage.stats
  | .checking snapGen => storage.gen = snapGen → storage.InFile
  | .done => True

/-- The flag is set whenever it has to be, now and when a save in progress has cleared it. -/
structure Tracked (storage : Storage) : Prop where
  clear : storage.dirty = false → storage.InFile
  saves : ∀ save ∈ storage.saves, save.Agrees storage

/-- The entries change and the generation is the one of a snapshot in progress, or an outdated write
replaces entries that nothing writes again. -/
def Overtakes : Event → Prop
  | .record today bytesSent bytesReceived connections =>
    ∃ save ∈ storage.saves,
      ¬save.Agrees (storage.record today bytesSent bytesReceived connections)
  | .clean cutoff => ∃ save ∈ storage.saves, ¬save.Agrees (storage.clean cutoff)
  | .write index failure =>
    (match step storage (.write index failure) with
      | some next => ¬next.InFile
      | none => False) ∧
      (storage.dirty = false ∨ ∃ other < storage.saves.length,
        other ≠ index ∧ storage.saves[other]? = some (.checking storage.gen))
  | .snapshot => False
  | .check _ => False

instance (storage : Storage) : Decidable storage.InFile :=
  inferInstanceAs (Decidable (load storage.file = some storage.stats))

instance (storage : Storage) : (save : SaveStage) → Decidable (save.Agrees storage)
  | .writing snapGen stats => inferInstanceAs (Decidable (storage.gen = snapGen → stats = _))
  | .checking snapGen => inferInstanceAs (Decidable (storage.gen = snapGen → storage.InFile))
  | .done => isTrue trivial

instance (after : Option Storage) :
    Decidable (match after with | some next => ¬next.InFile | none => False) :=
  match after with
  | some next => inferInstanceAs (Decidable ¬next.InFile)
  | none => isFalse id

instance (storage : Storage) : (event : Event) → Decidable (Overtakes storage event)
  | .record _ _ _ _ => inferInstanceAs (Decidable (∃ save ∈ storage.saves, _))
  | .clean _ => inferInstanceAs (Decidable (∃ save ∈ storage.saves, _))
  | .snapshot => isFalse id
  | .write _ _ => inferInstanceAs (Decidable (_ ∧ _))
  | .check _ => isFalse id

variable {storage next : Storage} {index : Nat}

theorem newStorage_tracked {file : StatsFile}
    (opened : newStorage file = some storage) : Tracked storage := by
  have ⟨stats, loaded, made⟩ := Option.map_eq_some_iff.mp opened
  subst made
  exact ⟨fun _ => loaded, nofun⟩

theorem clean_eq_self {cutoff : GoString}
    (kept : (storage.clean cutoff).dirty = false) : storage.clean cutoff = storage := by
  have ⟨_, noneBefore⟩ := Bool.or_eq_false_iff.mp kept
  have same : storage.stats.filter (fun entry => !textLess entry.date cutoff) = storage.stats := by
    refine filter_eq_self.mpr fun entry listed => ?_
    rw [Bool.eq_false_iff.mpr (any_eq_false.mp noneBefore entry listed)]
    rfl
  unfold Storage.clean
  rw [same, noneBefore, Bool.or_false]

theorem write_effect {failure : Option StatsFile}
    (stepped : step storage (.write index failure) = some next) :
    ∃ snapGen stats file made, storage.saves[index]? = some (.writing snapGen stats) ∧
      next = { storage with file, saves := storage.saves.set index made } ∧
      (file = .stats stats ∧ made = .checking snapGen ∨ made = .done) := by
  simp only [step] at stepped
  split at stepped
  · rename_i snapGen stats found
    split at stepped
    · exact ⟨snapGen, stats, _, _, found, (Option.some.inj stepped).symm, .inl ⟨rfl, rfl⟩⟩
    · exact ⟨snapGen, stats, _, _, found, (Option.some.inj stepped).symm, .inr rfl⟩
  · cases stepped

theorem check_effect (stepped : step storage (.check index) = some next) :
    ∃ snapGen, storage.saves[index]? = some (.checking snapGen) ∧
      next = { storage with
        dirty := if storage.gen = snapGen then false else storage.dirty
        saves := storage.saves.set index .done } := by
  simp only [step] at stepped
  split at stepped
  · rename_i snapGen found
    exact ⟨snapGen, found, (Option.some.inj stepped).symm⟩
  · cases stepped

section

variable (tracked : Tracked storage)

include tracked

theorem Tracked.write {failure : Option StatsFile} (stepped : step storage
    (.write index failure) = some next)
    (calm : ¬Overtakes storage (.write index failure)) : Tracked next := by
  have written : next.InFile ∨ storage.dirty ≠ false ∧
      ∀ other : Nat, other ≠ index → storage.saves[other]? ≠ some (.checking storage.gen) := by
    simp only [Overtakes, stepped] at calm
    by_cases inFile : next.InFile
    · exact .inl inFile
    · refine .inr ⟨fun clear => calm ⟨inFile, .inl clear⟩, fun other apart found => ?_⟩
      have inside := (List.getElem?_eq_some_iff.mp found).1
      exact calm ⟨inFile, .inr ⟨other, inside, apart, found⟩⟩
  have ⟨snapGen, stats, file, made, found, same, outcome⟩ := write_effect stepped
  have own := tracked.saves _ (mem_of_getElem? found)
  subst same
  refine ⟨fun clear => written.resolve_right fun kept => kept.1 clear, fun save listed => ?_⟩
  have ⟨place, present⟩ := mem_iff_getElem?.mp listed
  rcases getElem?_set_cases present with ⟨_, ended⟩ | ⟨apart, old⟩
  · subst ended
    rcases outcome with ⟨rfl, rfl⟩ | rfl
    · intro current
      exact congrArg some (own current)
    · trivial
  · -- The other saves stand where they stood and memory is as it was.
    cases save with
    | writing otherGen otherStats => exact tracked.saves _ (mem_of_getElem? old)
    | checking otherGen =>
      intro current
      rcases written with inFile | ⟨_, absent⟩
      · exact inFile
      · exact absurd (current ▸ old) (absent place apart)
    | done => trivial

theorem Tracked.check (stepped : step storage (.check index) = some next) : Tracked next := by
  have ⟨snapGen, found, same⟩ := check_effect stepped
  have own := tracked.saves _ (mem_of_getElem? found)
  subst same
  refine ⟨fun clear => ?_, fun save listed => ?_⟩
  · by_cases current : storage.gen = snapGen
    · exact own current
    · exact tracked.clear ((if_neg current).symm.trans clear)
  · rcases mem_or_eq_of_mem_set listed with old | made
    · have before := tracked.saves save old
      cases save <;> exact before
    · subst made
      trivial

theorem Tracked.step {event : Event}
    (stepped : machine.step storage event = some next) (calm : ¬Overtakes storage event) :
    Tracked next := by
  cases event with
  | record today bytesSent bytesReceived connections =>
    cases stepped
    exact ⟨(nomatch ·),
      fun save listed => Classical.not_not.mp fun wrong => calm ⟨save, listed, wrong⟩⟩
  | clean cutoff =>
    cases stepped
    refine ⟨fun clear => ?_,
      fun save listed => Classical.not_not.mp fun wrong => calm ⟨save, listed, wrong⟩⟩
    have same := clean_eq_self clear
    rw [same] at clear ⊢
    exact tracked.clear clear
  | snapshot =>
    change (if storage.dirty then _ else _) = _ at stepped
    split at stepped <;> cases stepped
    · refine ⟨tracked.clear, fun save listed => ?_⟩
      rcases mem_append.mp listed with old | made
      · have before := tracked.saves save old
        cases save <;> exact before
      · rw [mem_singleton.mp made]
        exact fun _ => rfl
    · exact tracked
  | write index failure => exact tracked.write stepped calm
  | check index => exact tracked.check stepped

theorem Tracked.persisted : Persisted storage :=
  fun _ clear => tracked.clear clear

end

/-! ## Saves that are overtaken -/

/-- The steps that a save has still to take when nothing fails. -/
def SaveStage.rest (index : Nat) : SaveStage → List Event
  | .writing _ _ => [.write index none, .check index]
  | .checking _ => [.check index]
  | .done => []

def Storage.Alone (storage : Storage) (index : Nat) : Prop :=
  ∀ (other : Nat) save, other ≠ index → storage.saves[other]? = some save → save = .done

section

variable (alone : storage.Alone index)

include alone

theorem Alone.all_done : ∀ save ∈ storage.saves.set index .done, save = .done := by
  intro save listed
  have ⟨place, present⟩ := mem_iff_getElem?.mp listed
  rcases getElem?_set_cases present with ⟨_, made⟩ | ⟨apart, old⟩
  · exact made
  · exact alone place save apart old

theorem check_loses {snapGen : UInt64} (found : storage.saves[index]? = some (.checking snapGen))
    (clears : storage.gen = snapGen ∨ storage.dirty = false) (outdated : ¬storage.InFile) :
    ∃ final, machine.run storage [.check index] = some final ∧ ¬Persisted final := by
  have stepped : machine.step storage (.check index) = some { storage with
      dirty := if storage.gen = snapGen then false else storage.dirty
      saves := storage.saves.set index .done } := by
    simp only [machine, step, found]
  refine ⟨_, by rw [Machine.run_cons stepped, Machine.run], fun persisted => ?_⟩
  refine outdated (persisted (Alone.all_done alone) ?_)
  split
  · rfl
  · rename_i other
    exact clears.resolve_left other

theorem disagreeing_loses {save : SaveStage} (found : storage.saves[index]? = some save)
    (wrong : ¬save.Agrees storage) :
    ∃ final, machine.run storage (save.rest index) = some final ∧ ¬Persisted final := by
  cases save with
  | writing snapGen stats =>
    have ⟨current, differs⟩ := Classical.not_imp.mp wrong
    have stepped : machine.step storage (.write index none) = some { storage with
        file := .stats stats
        saves := storage.saves.set index (.checking snapGen) } := by
      simp only [machine, step, found]
    have inside := (List.getElem?_eq_some_iff.mp found).1
    rw [SaveStage.rest, Machine.run_cons stepped]
    refine check_loses (fun other save apart present => ?_) (List.getElem?_set_self inside)
      (.inl current) fun inFile => ?_
    · exact alone other save apart ((List.getElem?_set_ne (Ne.symm apart)).symm.trans present)
    · exact differs (Option.some.inj inFile)
  | checking snapGen =>
    have ⟨current, outdated⟩ := Classical.not_imp.mp wrong
    exact check_loses alone found (.inl current) outdated
  | done => exact absurd trivial wrong

theorem change_loses {save : SaveStage} (sameSaves : next.saves = storage.saves)
    (listed : save ∈ storage.saves) (wrong : ¬save.Agrees next) :
    ∃ save final, next.saves[index]? = some save ∧
      machine.run next (save.rest index) = some final ∧ ¬Persisted final := by
  have ⟨place, present⟩ := mem_iff_getElem?.mp listed
  have own : place = index := Classical.not_not.mp fun apart => by
    rw [alone place save apart present] at wrong
    exact wrong trivial
  subst own
  have aloneNext : next.Alone place := by
    unfold Storage.Alone
    rw [sameSaves]
    exact alone
  rw [← sameSaves] at present
  have ⟨final, ran, lost⟩ := disagreeing_loses aloneNext present wrong
  exact ⟨save, final, present, ran, lost⟩

end

theorem overtaken_loses {event : Event}
    (stepped : machine.step storage event = some next) (overtakes : Overtakes storage event)
    (alone : storage.Alone index) :
    ∃ save final, next.saves[index]? = some save ∧
      machine.run next (save.rest index) = some final ∧ ¬Persisted final := by
  cases event with
  | record today bytesSent bytesReceived connections | clean cutoff =>
    have ⟨save, listed, wrong⟩ := overtakes
    cases stepped
    exact change_loses alone rfl listed wrong
  | snapshot | check other => exact absurd overtakes id
  | write other failure =>
    have ⟨snapGen, stats, file, made, found, same, outcome⟩ := write_effect stepped
    have own : other = index := Classical.not_not.mp fun apart => by
      cases alone other _ apart found
    subst own
    have ⟨after, reason⟩ := overtakes
    rw [show step storage (.write other failure) = some next from stepped] at after
    have clear : storage.dirty = false := by
      refine reason.resolve_right fun ⟨place, _, apart, checking⟩ => ?_
      cases alone place _ apart checking
    have inside := (List.getElem?_eq_some_iff.mp found).1
    subst same
    rcases outcome with ⟨_, rfl⟩ | rfl
    · have checking := List.getElem?_set_self (a := SaveStage.checking snapGen) inside
      have aloneAfter : Storage.Alone { storage with
          file, saves := storage.saves.set other (.checking snapGen) } other :=
        fun place save apart present =>
          alone place save apart ((List.getElem?_set_ne (Ne.symm apart)).symm.trans present)
      have ⟨final, ran, lost⟩ := check_loses aloneAfter checking (.inr clear) after
      exact ⟨_, final, checking, ran, lost⟩
    · exact ⟨.done, _, List.getElem?_set_self inside, rfl,
        fun persisted => after (persisted (Alone.all_done alone) clear)⟩

/-- Along every interleaving that overtakes no save, the file holds the statistics in memory
whenever no save is in progress and the flag is cleared. A step that overtakes the only save in
progress breaks this as soon as the save has taken its remaining steps. -/
theorem persisted_unless_overtaken {file : StatsFile} {start : Storage}
    (opened : newStorage file = some start) (events : List Event) :
    (machine.Never Overtakes start events → machine.Always Persisted start events) ∧
      ∀ reached event next (index : Nat), machine.run start events = some reached →
        machine.step reached event = some next → Overtakes reached event →
        reached.Alone index →
        ∃ save final, next.saves[index]? = some save ∧
          machine.run next (save.rest index) = some final ∧ ¬Persisted final := by
  constructor
  · exact Machine.always_of_never Tracked (fun tracked stepped calm => tracked.step stepped calm)
      Tracked.persisted events (newStorage_tracked opened)
  · intro reached event next index _ stepped overtakes alone
    exact overtaken_loses stepped overtakes alone

def fresh : Storage := ⟨[], false, 0, 0, 0, .missing, []⟩

def twoDays : List Event :=
  [.record (lit "2026-03-01") 100 50 2, .snapshot, .record (lit "2026-03-02") 250 60 1,
    .write 0 none, .check 0, .snapshot, .write 1 none, .check 1]

theorem persisted_unless_overtaken_two_days :
    newStorage .missing = some fresh ∧ machine.Never Overtakes fresh twoDays ∧
      machine.Always Persisted fresh twoDays := by
  have opened : newStorage .missing = some fresh := rfl
  have calm : machine.Never Overtakes fresh twoDays := by decide +kernel
  exact ⟨opened, calm, (persisted_unless_overtaken opened twoDays).1 calm⟩

def cleanedWhileSaving : List Event :=
  [.record (lit "2026-03-01") 100 50 2, .snapshot, .write 0 none, .clean (lit "2026-03-02"),
    .check 0]

/-- The removed day is in the file, and no later save takes it out. -/
theorem clean_during_save_lost :
    ¬∀ file start events, newStorage file = some start → machine.Always Persisted start events := by
  intro always
  have persisted := always .missing fresh cleanedWhileSaving rfl cleanedWhileSaving [] _
    (append_nil _).symm rfl
  exact absurd (persisted (fun save listed => mem_singleton.mp listed) rfl) (by decide)

end Shuttle.Stats
