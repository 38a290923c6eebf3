import Shuttle.Go.Net
import Shuttle.Go.Sort

/-!
# Country lookup by address

Loaded networks are kept as masked starts sorted by start. A lookup finds the last entry that does
not start after the address and scans backwards, but only up to the first entry that does not match,
so a network is missed as soon as another one starts between it and the address, and among networks
of one start the sort decides.
-/

namespace Shuttle.Router

open Shuttle.Go List

structure GeoEntry where
  start : UInt32
  mask : UInt32
  country : GoString
deriving DecidableEq, Repr

def startLess (left right : GeoEntry) : Bool := decide (left.start.toNat < right.start.toNat)

/-- A view of the data. The IPv6 map is listed in some order of its keys. -/
structure GeoIPSnapshot where
  ipv4Entries : List GeoEntry
  ipv6Entries : List (GoString × List IPNet)
deriving DecidableEq

def newGeoIPDB : GeoIPSnapshot := ⟨[], []⟩

def maskOf (ones : Nat) : UInt32 :=
  if 0 < ones then 0xffffffff <<< UInt32.ofNat (32 - ones) else 0

def appendNetwork (country : GoString) (network : IPNet) :
    List (GoString × List IPNet) → List (GoString × List IPNet)
  | [] => [(country, [network])]
  | (key, networks) :: rest =>
    if key = country then (key, networks ++ [network]) :: rest
    else (key, networks) :: appendNetwork country network rest

namespace GeoIPSnapshot

/-- Add one textual network; text that is no network is skipped. The shift that makes the mask
panics for an IPv4-mapped IPv6 network. -/
def addCIDR (country : GoString) (snapshot : GeoIPSnapshot) (cidr : GoString) :
    Option GeoIPSnapshot :=
  match parseCIDR cidr with
  | none => some snapshot
  | some network =>
    match to4 network.ip with
    | some ip4 =>
      let start := UInt32.ofNat (ofBe ip4)
      let (ones, _) := network.size
      if 32 < ones then none
      else
        let mask := maskOf ones
        some { snapshot with
          ipv4Entries := snapshot.ipv4Entries ++ [⟨start &&& mask, mask, country⟩] }
    | none =>
      some { snapshot with
        ipv6Entries := appendNetwork country network snapshot.ipv6Entries }

def sorted (snapshot : GeoIPSnapshot) (sorter : Sorter GeoEntry startLess) : GeoIPSnapshot :=
  { snapshot with ipv4Entries := sorter.sort snapshot.ipv4Entries }

/-- Add networks of a country. The compare-and-swap makes the whole update one step. -/
def loadFromCIDRs (snapshot : GeoIPSnapshot) (sorter : Sorter GeoEntry startLess)
    (country : GoString) (cidrs : List GoString) : Option GeoIPSnapshot :=
  (cidrs.foldlM (addCIDR country) snapshot).map fun loaded => loaded.sorted sorter

end GeoIPSnapshot

structure GeoIPEntry where
  countryCode : GoString
  cidrs : List GoString

namespace GeoIPSnapshot

def reload (sorter : Sorter GeoEntry startLess) (entries : List GeoIPEntry) :
    Option GeoIPSnapshot :=
  (entries.foldlM (fun (snapshot : GeoIPSnapshot) (entry : GeoIPEntry) =>
    entry.cidrs.foldlM (addCIDR entry.countryCode) snapshot) newGeoIPDB).map
      fun loaded => loaded.sorted sorter

def scanBack (entries : List GeoEntry) (addr : UInt32) : Nat → GoString
  | 0 => []
  | i + 1 =>
    match entries[i]? with
    | none => []
    | some e =>
      if addr &&& e.mask = e.start then e.country
      else if e.start < addr &&& e.mask then []
      else scanBack entries addr i

variable (snapshot : GeoIPSnapshot)

def lookupIPv4 (addr : UInt32) : GoString :=
  let entries := snapshot.ipv4Entries
  let n := entries.length
  if n = 0 then []
  else
    let idx := search n fun i =>
      match entries[i]? with
      | none => true
      | some e => decide (addr < e.start)
    scanBack entries addr idx

/-- Linear scan of the IPv6 networks, country by country. -/
def lookupIPv6 (ip : IP) : GoString :=
  match snapshot.ipv6Entries.find? fun (_, networks) =>
      networks.any fun cidr => cidr.contains ip with
  | some (country, _) => country
  | none => []

def lookupCountry (ip : IP) : GoString :=
  match to4 ip with
  | some ip4 => snapshot.lookupIPv4 (UInt32.ofNat (ofBe ip4))
  | none => snapshot.lookupIPv6 ip

end GeoIPSnapshot

inductive GeoIPUpdate where
  | load (country : GoString) (cidrs : List GoString)
  | reload (entries : List GeoIPEntry)

variable (sorter : Sorter GeoEntry startLess)

def GeoIPUpdate.apply (snapshot : GeoIPSnapshot) :
    GeoIPUpdate → Option GeoIPSnapshot
  | load country cidrs => snapshot.loadFromCIDRs sorter country cidrs
  | reload entries => GeoIPSnapshot.reload sorter entries

/-- The database after updates in order; none if one of them panics. -/
def geoIPAfter (updates : List GeoIPUpdate) : Option GeoIPSnapshot :=
  updates.foldlM (GeoIPUpdate.apply sorter) newGeoIPDB

/-! ## Loaded networks -/

structure Loaded where
  number : Nat
  ones : Nat
  country : GoString

namespace Loaded

/-- The first `ones` bits of the address are those of the network. -/
def Contains (loaded : Loaded) (addr : UInt32) : Prop :=
  addr.toNat / 2 ^ (32 - loaded.ones) = loaded.number / 2 ^ (32 - loaded.ones)

instance (loaded : Loaded) (addr : UInt32) : Decidable (loaded.Contains addr) :=
  inferInstanceAs (Decidable (_ = _))

def entry (loaded : Loaded) : GeoEntry :=
  ⟨UInt32.ofNat loaded.number &&& maskOf loaded.ones, maskOf loaded.ones, loaded.country⟩

/-- A network number is a word and a prefix length at most 32. -/
structure Valid (loaded : Loaded) : Prop where
  number : loaded.number < 2 ^ 32
  ones : loaded.ones ≤ 32

end Loaded

def parseIPv4Network (country : GoString) (cidr : GoString) : Option Loaded :=
  match parseCIDR cidr with
  | none => none
  | some network => (to4 network.ip).map fun ip4 => ⟨ofBe ip4, network.size.1, country⟩

/-- The networks present after one more update: a load adds, a reload replaces. -/
def loadedStep (present : List Loaded) : GeoIPUpdate → List Loaded
  | .load country cidrs => present ++ cidrs.filterMap (parseIPv4Network country)
  | .reload entries =>
    entries.flatMap fun entry => entry.cidrs.filterMap (parseIPv4Network entry.countryCode)

def loadedAfter (updates : List GeoIPUpdate) : List Loaded := updates.foldl loadedStep []

/-- The country of a network containing the address with the longest prefix, and empty only if none
contains it. -/
def LongestMatch (present : List Loaded) (addr : UInt32) (country : GoString) : Prop :=
  (country = [] ∧ ∀ loaded ∈ present, ¬loaded.Contains addr) ∨
    (country ≠ [] ∧ ∃ loaded ∈ present, loaded.Contains addr ∧ loaded.country = country ∧
      ∀ other ∈ present, other.Contains addr → other.ones ≤ loaded.ones)

/-- The last entry in the sorted order that does not start after the address. -/
def lastAtOrBefore (entries : List GeoEntry) (addr : UInt32) : Option GeoEntry :=
  (entries.filter fun e => decide (e.start ≤ addr)).getLast?

/-! ## Masks -/

theorem testBit_maskOf {ones : Nat} (fits : ones ≤ 32) (bit : Nat) :
    (maskOf ones).toNat.testBit bit = (decide (32 - ones ≤ bit) && decide (bit < 32)) := by
  unfold maskOf
  by_cases some : 0 < ones
  · have amount : (UInt32.ofNat (32 - ones)).toNat % 32 = 32 - ones := by
      rw [UInt32.toNat_ofNat_of_lt' (show 32 - ones < UInt32.size by
        have : UInt32.size = 2 ^ 32 := rfl
        omega)]
      omega
    rw [if_pos some, UInt32.toNat_shiftLeft, amount, Nat.testBit_mod_two_pow, Nat.testBit_shiftLeft]
    have all : (0xffffffff : UInt32).toNat = 2 ^ 32 - 1 := rfl
    rw [all, Nat.testBit_two_pow_sub_one]
    by_cases high : 32 - ones ≤ bit
    · by_cases low : bit < 32
      · have inside : bit - (32 - ones) < 32 := by omega
        simp [high, inside]
      · simp [low]
    · simp [high]
  · have none : ones = 0 := by omega
    subst none
    by_cases low : bit < 32
    · have outside : ¬32 - 0 ≤ bit := by omega
      simp [outside]
    · simp [low]

theorem toNat_and_maskOf (addr : UInt32) {ones : Nat} (fits : ones ≤ 32) :
    (addr &&& maskOf ones).toNat = addr.toNat / 2 ^ (32 - ones) * 2 ^ (32 - ones) := by
  have bound := addr.toNat_lt
  apply Nat.eq_of_testBit_eq
  intro bit
  rw [UInt32.toNat_and, Nat.testBit_and, testBit_maskOf fits, ← Nat.shiftRight_eq_div_pow,
    ← Nat.shiftLeft_eq, Nat.testBit_shiftLeft, Nat.testBit_shiftRight]
  by_cases high : 32 - ones ≤ bit
  · rw [Nat.add_sub_cancel' high]
    by_cases low : bit < 32
    · simp [high, low]
    · have zero : addr.toNat.testBit bit = false :=
        Nat.testBit_lt_two_pow (Nat.lt_of_lt_of_le bound (Nat.pow_le_pow_right (by decide)
          (by omega)))
      simp [zero]
  · simp [high]

namespace Loaded

variable {loaded : Loaded}

theorem Valid.start (valid : loaded.Valid) :
    loaded.entry.start.toNat = loaded.number / 2 ^ (32 - loaded.ones) * 2 ^ (32 - loaded.ones) := by
  unfold entry
  rw [toNat_and_maskOf _ valid.ones, UInt32.toNat_ofNat_of_lt' valid.number]

theorem Valid.masked (valid : loaded.Valid) (addr : UInt32) :
    (addr &&& loaded.entry.mask).toNat =
      addr.toNat / 2 ^ (32 - loaded.ones) * 2 ^ (32 - loaded.ones) :=
  toNat_and_maskOf addr valid.ones

theorem Valid.matches_iff (valid : loaded.Valid) (addr : UInt32) :
    addr &&& loaded.entry.mask = loaded.entry.start ↔ loaded.Contains addr := by
  rw [← UInt32.toNat_inj, valid.masked, valid.start]
  constructor
  · intro same
    exact Nat.eq_of_mul_eq_mul_right (Nat.two_pow_pos _) same
  · intro same
    rw [same]

theorem Valid.start_le_masked (valid : loaded.Valid) {addr : UInt32}
    (before : loaded.entry.start ≤ addr) : loaded.entry.start ≤ addr &&& loaded.entry.mask := by
  rw [UInt32.le_iff_toNat_le, valid.start] at before ⊢
  rw [valid.masked]
  apply Nat.mul_le_mul_right
  exact (Nat.le_div_iff_mul_le (Nat.two_pow_pos _)).mpr before

end Loaded

/-! ## Snapshots and what was loaded -/

/-- The IPv4 entries are those of the networks present, in some order. -/
structure Represents (snapshot : GeoIPSnapshot) (present : List Loaded) : Prop where
  perm : snapshot.ipv4Entries.Perm (present.map Loaded.entry)
  valid : ∀ loaded ∈ present, loaded.Valid

def Sorted (snapshot : GeoIPSnapshot) : Prop :=
  snapshot.ipv4Entries.Pairwise fun earlier later => startLess later earlier = false

/-- The text is no IPv4-mapped IPv6 network. -/
def NotMapped (cidr : GoString) : Prop :=
  ∀ network, parseCIDR cidr = some network → (to4 network.ip).isSome → network.ip.length = 4

theorem NotMapped.ones_le {cidr : GoString} {network : IPNet} {ip4 : IP}
    (notMapped : NotMapped cidr) (parsed : parseCIDR cidr = some network)
    (short : to4 network.ip = some ip4) : network.size.1 ≤ 32 := by
  have length := notMapped network parsed (by rw [short]; rfl)
  have ⟨address, ones, valid, fits, same⟩ := parseCIDR_networkOf parsed
  have size := networkOf_size address ones valid fits
  rw [← same] at size
  rw [size]
  cases address with
  | zero => contradiction
  | v4 value => exact fits
  | v6 value zone =>
    have ⟨long, _⟩ := networkOf_v6 value zone ones fits
    rw [← same, length] at long
    contradiction

variable {snapshot : GeoIPSnapshot} {present : List Loaded}

theorem Represents.addCIDR (represents : Represents snapshot present) (country : GoString)
    {cidr : GoString} (notMapped : NotMapped cidr) :
    ∃ next, snapshot.addCIDR country cidr = some next ∧
      Represents next (present ++ (parseIPv4Network country cidr).toList) := by
  unfold GeoIPSnapshot.addCIDR parseIPv4Network
  cases parsed : parseCIDR cidr with
  | none =>
    refine ⟨snapshot, rfl, ?_⟩
    rw [Option.toList_none, append_nil]
    exact represents
  | some network =>
    dsimp only
    cases short : to4 network.ip with
    | none =>
      refine ⟨_, rfl, ?_⟩
      rw [Option.map_none, Option.toList_none, append_nil]
      exact ⟨represents.perm, represents.valid⟩
    | some ip4 =>
      have few := notMapped.ones_le parsed short
      have word : ofBe ip4 < 2 ^ 32 := by
        have bound := ofBe_lt ip4
        rw [to4_length short] at bound
        exact bound
      dsimp only
      rw [if_neg (Nat.not_lt.mpr few), Option.map_some]
      refine ⟨_, rfl, ?_, fun loaded member => ?_⟩
      · rw [map_append]
        exact represents.perm.append (List.Perm.refl _)
      · rcases mem_append.mp member with old | new
        · exact represents.valid loaded old
        · exact mem_singleton.mp new ▸ ⟨word, few⟩

theorem Represents.fold {α : Type} {step : GeoIPSnapshot → α → Option GeoIPSnapshot}
    {loads : α → List Loaded} (items : List α)
    (each : ∀ item ∈ items, ∀ {snapshot : GeoIPSnapshot} {present : List Loaded},
      Represents snapshot present → ∃ next, step snapshot item = some next ∧
      Represents next (present ++ loads item)) {snapshot : GeoIPSnapshot} {present : List Loaded}
    (represents : Represents snapshot present) :
    ∃ next, items.foldlM step snapshot = some next ∧
      Represents next (present ++ items.flatMap loads) := by
  induction items generalizing snapshot present with
  | nil =>
    refine ⟨snapshot, rfl, ?_⟩
    rw [flatMap_nil, append_nil]
    exact represents
  | cons item items ih =>
    have ⟨middle, added, following⟩ := each item mem_cons_self represents
    have ⟨next, rest, final⟩ := ih (fun other member => each other (mem_cons_of_mem _ member))
      following
    refine ⟨next, ?_, ?_⟩
    · rw [foldlM_cons, added]
      exact rest
    · rw [flatMap_cons, ← append_assoc]
      exact final

theorem Represents.addCIDRs (represents : Represents snapshot present) (country : GoString)
    (cidrs : List GoString) (notMapped : ∀ cidr ∈ cidrs, NotMapped cidr) :
    ∃ next, cidrs.foldlM (GeoIPSnapshot.addCIDR country) snapshot = some next ∧
      Represents next (present ++ cidrs.filterMap (parseIPv4Network country)) := by
  rw [filterMap_eq_flatMap_toList]
  refine Represents.fold cidrs ?_ represents
  intro cidr member snapshot present before
  exact before.addCIDR country (notMapped cidr member)

theorem Represents.sorted
    (represents : Represents snapshot present) (sorter : Sorter GeoEntry startLess) :
    Represents (snapshot.sorted sorter) present ∧ Sorted (snapshot.sorted sorter) :=
  ⟨⟨(sorter.perm _).trans represents.perm, represents.valid⟩, sorter.ordered _⟩

def GeoIPUpdate.cidrs : GeoIPUpdate → List GoString
  | load _ cidrs => cidrs
  | reload entries => entries.flatMap GeoIPEntry.cidrs

theorem Represents.apply
    (represents : Represents snapshot present) (sorter : Sorter GeoEntry startLess)
    (update : GeoIPUpdate) (notMapped : ∀ cidr ∈ update.cidrs, NotMapped cidr) :
    ∃ next, update.apply sorter snapshot = some next ∧
      Represents next (loadedStep present update) ∧ Sorted next := by
  cases update with
  | load country cidrs =>
    have ⟨next, added, following⟩ := represents.addCIDRs country cidrs notMapped
    have ⟨kept, ordered⟩ := following.sorted sorter
    refine ⟨next.sorted sorter, ?_, kept, ordered⟩
    change (cidrs.foldlM (GeoIPSnapshot.addCIDR country) snapshot).map _ = _
    rw [added]
    rfl
  | reload entries =>
    have fresh : Represents newGeoIPDB [] := ⟨List.Perm.refl _, nofun⟩
    have ⟨next, added, following⟩ := Represents.fold entries (fun entry member _ _ before =>
      before.addCIDRs entry.countryCode entry.cidrs fun cidr listed =>
        notMapped cidr (mem_flatMap.mpr ⟨entry, member, listed⟩)) fresh
    have ⟨kept, ordered⟩ := following.sorted sorter
    refine ⟨next.sorted sorter, ?_, kept, ordered⟩
    unfold GeoIPUpdate.apply GeoIPSnapshot.reload
    dsimp only
    rw [added]
    rfl

theorem Represents.applyAll (sorter : Sorter GeoEntry startLess) (updates : List GeoIPUpdate) :
    ∀ {snapshot : GeoIPSnapshot} {present : List Loaded}, Represents snapshot present →
      Sorted snapshot → (∀ update ∈ updates, ∀ cidr ∈ update.cidrs, NotMapped cidr) →
      ∃ final, updates.foldlM (GeoIPUpdate.apply sorter) snapshot = some final ∧
        Represents final (updates.foldl loadedStep present) ∧ Sorted final := by
  induction updates with
  | nil =>
    intro snapshot present represents ordered _
    exact ⟨snapshot, rfl, represents, ordered⟩
  | cons update updates ih =>
    intro snapshot present represents _ notMapped
    have ⟨next, applied, following, ordered⟩ := represents.apply sorter update
      (notMapped update mem_cons_self)
    have ⟨final, rest, kept⟩ := ih following ordered fun other member =>
      notMapped other (mem_cons_of_mem _ member)
    refine ⟨final, ?_, kept⟩
    rw [foldlM_cons, applied]
    exact rest

theorem geoIPAfter_represents (sorter : Sorter GeoEntry startLess) (updates : List GeoIPUpdate)
    (notMapped : ∀ update ∈ updates, ∀ cidr ∈ update.cidrs, NotMapped cidr) :
    ∃ snapshot, geoIPAfter sorter updates = some snapshot ∧
      Represents snapshot (loadedAfter updates) ∧ Sorted snapshot :=
  Represents.applyAll sorter updates
    ⟨List.Perm.refl _, nofun⟩ List.Pairwise.nil notMapped

/-! ## The lookup -/

section Lookup

variable {snapshot : GeoIPSnapshot} {present : List Loaded}

theorem Represents.exists_loaded (represents : Represents snapshot present) {e : GeoEntry}
    (member : e ∈ snapshot.ipv4Entries) : ∃ loaded ∈ present, loaded.entry = e :=
  mem_map.mp (represents.perm.mem_iff.mp member)

theorem Sorted.start_le (ordered : Sorted snapshot) {i j : Nat} {earlier later : GeoEntry}
    (before : i ≤ j) (first : snapshot.ipv4Entries[i]? = some earlier)
    (second : snapshot.ipv4Entries[j]? = some later) :
    earlier.start.toNat ≤ later.start.toNat := by
  have ⟨iBelow, firstAt⟩ := List.getElem?_eq_some_iff.mp first
  have ⟨jBelow, secondAt⟩ := List.getElem?_eq_some_iff.mp second
  by_cases same : i = j
  · subst same
    rw [first] at second
    rw [Option.some.inj second]
  · have notLess := pairwise_iff_getElem.mp ordered i j iBelow jBelow (by omega)
    rw [firstAt, secondAt] at notLess
    exact Nat.not_lt.mp (of_decide_eq_false notLess)

def startsAfter (entries : List GeoEntry) (addr : UInt32) (i : Nat) : Bool :=
  match entries[i]? with
  | none => true
  | some e => decide (addr < e.start)

theorem Sorted.startsAfter_monotone (ordered : Sorted snapshot) (addr : UInt32) (i j : Nat)
    (before : i ≤ j) (below : j < snapshot.ipv4Entries.length)
    (after : startsAfter snapshot.ipv4Entries addr i = true) :
    startsAfter snapshot.ipv4Entries addr j = true := by
  have first := List.getElem?_eq_getElem (show i < snapshot.ipv4Entries.length by omega)
  have second := List.getElem?_eq_getElem below
  have starts := ordered.start_le before first second
  unfold startsAfter at after ⊢
  rw [first] at after
  rw [second]
  have later := UInt32.lt_iff_toNat_lt.mp (of_decide_eq_true after)
  exact decide_eq_true (UInt32.lt_iff_toNat_lt.mpr (by omega))

theorem Sorted.filter_eq_take (ordered : Sorted snapshot) (addr : UInt32) :
    search snapshot.ipv4Entries.length (startsAfter snapshot.ipv4Entries addr) ≤
        snapshot.ipv4Entries.length ∧
      (snapshot.ipv4Entries.filter fun e => decide (e.start ≤ addr)) =
        snapshot.ipv4Entries.take
          (search snapshot.ipv4Entries.length (startsAfter snapshot.ipv4Entries addr)) := by
  have ⟨bounded, before, after⟩ := search_spec (ordered.startsAfter_monotone addr)
  refine ⟨bounded, Shuttle.Go.filter_eq_take (fun k below e found => ?_) fun k above e found => ?_⟩
  · have no := before k below
    unfold startsAfter at no
    rw [found] at no
    exact decide_eq_true (UInt32.not_lt.mp (of_decide_eq_false no))
  · have ⟨inRange, _⟩ := List.getElem?_eq_some_iff.mp found
    have yes := after k above inRange
    unfold startsAfter at yes
    rw [found] at yes
    exact decide_eq_false (UInt32.not_le.mpr (of_decide_eq_true yes))

section

variable (represents : Represents snapshot present)

include represents

theorem Represents.scan_stops {e : GeoEntry}
    {addr : UInt32} (member : e ∈ snapshot.ipv4Entries) (before : e.start ≤ addr)
    (earlier : GoString) :
    (if addr &&& e.mask = e.start then e.country
      else if e.start < addr &&& e.mask then [] else earlier) =
      if addr &&& e.mask = e.start then e.country else [] := by
  by_cases hit : addr &&& e.mask = e.start
  · rw [if_pos hit, if_pos hit]
  have ⟨loaded, isPresent, same⟩ := represents.exists_loaded member
  subst same
  have below := (represents.valid loaded isPresent).start_le_masked before
  have stops : loaded.entry.start < addr &&& loaded.entry.mask := by
    refine Nat.lt_of_le_of_ne below fun equal => hit ?_
    exact (UInt32.toNat_inj.mp equal).symm
  rw [if_neg hit, if_neg hit, if_pos stops]

theorem lookupIPv4_eq (ordered : Sorted snapshot) (addr : UInt32) :
    snapshot.lookupIPv4 addr =
      match lastAtOrBefore snapshot.ipv4Entries addr with
      | none => []
      | some e => if addr &&& e.mask = e.start then e.country else [] := by
  have ⟨bounded, filtered⟩ := ordered.filter_eq_take addr
  unfold lastAtOrBefore
  rw [filtered]
  change (if snapshot.ipv4Entries.length = 0 then [] else
    GeoIPSnapshot.scanBack snapshot.ipv4Entries addr
      (search snapshot.ipv4Entries.length (startsAfter snapshot.ipv4Entries addr))) = _
  by_cases empty : snapshot.ipv4Entries.length = 0
  · have none : snapshot.ipv4Entries = [] := length_eq_zero_iff.mp empty
    rw [none]
    rfl
  · rw [if_neg empty]
    cases found : search snapshot.ipv4Entries.length
        (startsAfter snapshot.ipv4Entries addr) with
    | zero => rfl
    | succ i =>
      rw [found] at bounded filtered
      have ⟨e, here⟩ : ∃ e, snapshot.ipv4Entries[i]? = some e :=
        ⟨_, List.getElem?_eq_getElem (show i < snapshot.ipv4Entries.length by omega)⟩
      have last : (snapshot.ipv4Entries.take (i + 1)).getLast? = some e := by
        rw [List.getLast?_take, Nat.add_sub_cancel, here]
        rfl
      have listed := mem_of_getLast? last
      rw [← filtered] at listed
      have ⟨member, atOrBefore⟩ := mem_filter.mp listed
      rw [last]
      unfold GeoIPSnapshot.scanBack
      rw [here]
      exact represents.scan_stops member (of_decide_eq_true atOrBefore) _

theorem longestMatch_lookup_iff (ordered : Sorted snapshot) (addr : UInt32) :
    LongestMatch present addr (snapshot.lookupIPv4 addr) ↔
      (∀ loaded ∈ present, ¬loaded.Contains addr) ∨
        ∃ chosen ∈ present, lastAtOrBefore snapshot.ipv4Entries addr = some chosen.entry ∧
          chosen.Contains addr ∧ chosen.country ≠ [] ∧
          ∃ best ∈ present, best.Contains addr ∧ best.country = chosen.country ∧
            ∀ other ∈ present, other.Contains addr → other.ones ≤ best.ones := by
  have result := lookupIPv4_eq represents ordered addr
  have origin : ∀ e, lastAtOrBefore snapshot.ipv4Entries addr = some e →
      ∃ loaded ∈ present, loaded.entry = e := by
    intro e last
    exact represents.exists_loaded (mem_filter.mp (mem_of_getLast? last)).1
  constructor
  · rintro (⟨_, none⟩ | ⟨nonempty, best, isPresent, contains, country, longest⟩)
    · exact .inl none
    · rw [result] at nonempty country
      cases last : lastAtOrBefore snapshot.ipv4Entries addr with
      | none =>
        rw [last] at nonempty
        contradiction
      | some e =>
        have ⟨chosen, chosenPresent, same⟩ := origin e last
        subst same
        rw [last] at nonempty country
        dsimp only at nonempty country
        by_cases hit : addr &&& chosen.entry.mask = chosen.entry.start
        · rw [if_pos hit] at nonempty country
          have chosenContains :=
            ((represents.valid chosen chosenPresent).matches_iff addr).mp hit
          exact .inr ⟨chosen, chosenPresent, rfl, chosenContains, nonempty, best, isPresent,
            contains, country, longest⟩
        · rw [if_neg hit] at nonempty
          contradiction
  · rintro (none | ⟨chosen, chosenPresent, last, contains, nonempty, best, isPresent,
      bestContains, country, longest⟩)
    · refine .inl ⟨?_, none⟩
      rw [result]
      cases last : lastAtOrBefore snapshot.ipv4Entries addr with
      | none => rfl
      | some e =>
        have ⟨chosen, chosenPresent, same⟩ := origin e last
        subst same
        have miss : ¬addr &&& chosen.entry.mask = chosen.entry.start := fun hit =>
          none chosen chosenPresent
            (((represents.valid chosen chosenPresent).matches_iff addr).mp hit)
        exact if_neg miss
    · have hit := ((represents.valid chosen chosenPresent).matches_iff addr).mpr contains
      have found : snapshot.lookupIPv4 addr = chosen.country := by
        rw [result, last]
        exact if_pos hit
      rw [found]
      exact .inr ⟨nonempty, best, isPresent, bestContains, country, longest⟩

end

end Lookup

/-- For every run of loads and every sort, the country returned is that of a longest match exactly
when no network present contains the address, or when the network sorted last among those that do
not start after it contains it and has the non-empty country of a longest match. -/
theorem lookupCountry_longest_iff (sorter : Sorter GeoEntry startLess) (updates : List GeoIPUpdate)
    (notMapped : ∀ update ∈ updates, ∀ cidr ∈ update.cidrs, NotMapped cidr) :
    ∃ snapshot, geoIPAfter sorter updates = some snapshot ∧ ∀ ip ip4, to4 ip = some ip4 →
      (LongestMatch (loadedAfter updates) (UInt32.ofNat (ofBe ip4)) (snapshot.lookupCountry ip) ↔
        (∀ loaded ∈ loadedAfter updates, ¬loaded.Contains (UInt32.ofNat (ofBe ip4))) ∨
          ∃ chosen ∈ loadedAfter updates,
            lastAtOrBefore snapshot.ipv4Entries (UInt32.ofNat (ofBe ip4)) = some chosen.entry ∧
            chosen.Contains (UInt32.ofNat (ofBe ip4)) ∧ chosen.country ≠ [] ∧
            ∃ best ∈ loadedAfter updates, best.Contains (UInt32.ofNat (ofBe ip4)) ∧
              best.country = chosen.country ∧ ∀ other ∈ loadedAfter updates,
                other.Contains (UInt32.ofNat (ofBe ip4)) → other.ones ≤ best.ones) := by
  have ⟨snapshot, ran, represents, ordered⟩ := geoIPAfter_represents sorter updates notMapped
  refine ⟨snapshot, ran, fun ip ip4 short => ?_⟩
  unfold GeoIPSnapshot.lookupCountry
  rw [short]
  exact longestMatch_lookup_iff represents ordered (UInt32.ofNat (ofBe ip4))

def stableSorter : Sorter GeoEntry startLess := Sorter.byKey fun e : GeoEntry => e.start.toNat

def nestedUpdates : List GeoIPUpdate :=
  [.load (lit "US") [lit "10.0.0.0/8"], .load (lit "CN") [lit "10.1.0.0/16"]]

def nestedSnapshot : GeoIPSnapshot :=
  ⟨[⟨0x0a000000, 0xff000000, lit "US"⟩, ⟨0x0a010000, 0xffff0000, lit "CN"⟩], []⟩

/-- The law on nested networks: an address of the inner network and one before it are looked up
right, one after it is not. -/
theorem lookupCountry_nested :
    geoIPAfter stableSorter nestedUpdates = some nestedSnapshot ∧
      LongestMatch (loadedAfter nestedUpdates) (UInt32.ofNat (ofBe [10, 1, 2, 3]))
        (nestedSnapshot.lookupCountry [10, 1, 2, 3]) ∧
      LongestMatch (loadedAfter nestedUpdates) (UInt32.ofNat (ofBe [10, 0, 0, 1]))
        (nestedSnapshot.lookupCountry [10, 0, 0, 1]) ∧
      ¬LongestMatch (loadedAfter nestedUpdates) (UInt32.ofNat (ofBe [10, 2, 0, 1]))
        (nestedSnapshot.lookupCountry [10, 2, 0, 1]) := by
  have computed : geoIPAfter stableSorter nestedUpdates = some nestedSnapshot := by decide +kernel
  have notMapped : ∀ update ∈ nestedUpdates, ∀ cidr ∈ update.cidrs, NotMapped cidr := by
    intro update member cidr listed network parsed _
    simp only [nestedUpdates, mem_cons, not_mem_nil, or_false] at member
    rcases member with rfl | rfl
    all_goals
      simp only [GeoIPUpdate.cidrs, mem_singleton] at listed
      rw [listed] at parsed
      rw [← Option.some.inj parsed]
      rfl
  have ⟨snapshot, ran, law⟩ := lookupCountry_longest_iff stableSorter nestedUpdates notMapped
  have same := Option.some.inj ran
  subst same
  refine ⟨computed, (law [10, 1, 2, 3] _ rfl).mpr (by decide +kernel),
    (law [10, 0, 0, 1] _ rfl).mpr (by decide +kernel), fun found => ?_⟩
  exact absurd ((law [10, 2, 0, 1] _ rfl).mp found) (by decide +kernel)

/-- An address of the outer network after the inner one is not found although the outer network
contains it. -/
theorem outer_network_missed :
    geoIPAfter stableSorter nestedUpdates = some nestedSnapshot ∧
      nestedSnapshot.lookupCountry [10, 2, 0, 1] = [] ∧
      ∃ loaded ∈ loadedAfter nestedUpdates,
        loaded.Contains (UInt32.ofNat (ofBe [10, 2, 0, 1])) := by
  decide +kernel

end Shuttle.Router
