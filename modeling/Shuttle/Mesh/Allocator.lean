import Shuttle.Go.Net
import Shuttle.Lib.CursorAllocator

/-!
# Virtual address allocation of the mesh

The IPv4 and IPv6 allocators number the addresses of a network and hand out numbers from two on with
a cursor. The IPv4 size wraps to zero for the whole address space, and the IPv6 search bound wraps
near the top of its range. The IPv4 search covers the range, the IPv6 one gives up after ten
thousand offsets.
-/

namespace Shuttle.Mesh

open Shuttle.Go Shuttle.Lib List Finset

inductive AllocatorError where
  | parseCIDR (cidr : GoString)
  | notIPv6 (cidr : GoString)
  | longerThan64 (ones : Nat)
  /-- Every address is taken, as far as the search went. -/
  | exhausted

/-! ## IPv4 -/

structure IPAllocator extends Cursor where
  network : IPNet
  gateway : IP
  max : Nat

def start : Nat := 2

/-- An allocator for a textual network; panics on a network without a four-byte number. -/
def newIPAllocator (cidr : GoString) : Option (Except AllocatorError IPAllocator) :=
  match parseCIDR cidr with
  | none => some (.error (.parseCIDR cidr))
  | some network =>
    match to4 network.ip with
    | none => none
    | some four =>
      let base := ofBe four
      let (ones, bits) := network.size
      let size := 2 ^ (bits - ones) % 2 ^ 32
      some (.ok
        { network := network
          gateway := beBytes 4 ((base + 1) % 2 ^ 32)
          next := start
          max := (size + (2 ^ 32 - 1)) % 2 ^ 32
          used := fun _ => false })

namespace IPAllocator

def addressAt (base offset : Nat) : IP := beBytes 4 ((base + offset) % 2 ^ 32)

def allocate (allocator : IPAllocator) : Option (Except AllocatorError (IP × IPAllocator)) :=
  match to4 allocator.network.ip with
  | none => none
  | some four =>
    match allocator.toCursor.allocate start allocator.max with
    | some (offset, cursor) =>
      some (.ok (addressAt (ofBe four) offset, { allocator with toCursor := cursor }))
    | none => some (.error .exhausted)

/-- Release; an address without a four-byte form is ignored. -/
def release (allocator : IPAllocator) (ip : IP) : Option IPAllocator :=
  match to4 ip with
  | none => some allocator
  | some ip4 =>
    match to4 allocator.network.ip with
    | none => none
    | some four =>
      let offset := (ofBe ip4 + (2 ^ 32 - ofBe four)) % 2 ^ 32
      some { allocator with toCursor := allocator.toCursor.release offset }

/-- Runs of allocations and of releases of outstanding addresses. A failed allocation changes
nothing. -/
inductive Run (initial : IPAllocator) : Finset IP → IPAllocator → Prop
  | initial : Run initial ∅ initial
  | allocate {outstanding : Finset IP} {allocator next : IPAllocator} {ip : IP} :
      Run initial outstanding allocator → allocator.allocate = some (.ok (ip, next)) →
      Run initial (insert ip outstanding) next
  | release {outstanding : Finset IP} {allocator next : IPAllocator} {ip ip4 : IP} :
      Run initial outstanding allocator → to4 ip = some ip4 → ip4 ∈ outstanding →
      allocator.release ip = some next → Run initial (outstanding.erase ip4) next

/-- Offsets below a size do not wrap past the base. -/
def Fits (base size : Nat) : Prop := base + size ≤ 2 ^ 32

theorem ofBe_addressAt {base size offset : Nat} (fits : Fits base size) (below : offset < size) :
    ofBe (addressAt base offset) = base + offset := by
  unfold Fits at fits
  unfold addressAt
  rw [Nat.mod_eq_of_lt (by omega)]
  exact ofBe_beBytes_of_lt (by omega)

theorem addressAt_injective {base size : Nat} (fits : Fits base size) :
    Set.InjOn (addressAt base) (Set.Iio size) := by
  intro left leftBelow right rightBelow same
  have leftNumber := ofBe_addressAt fits leftBelow
  have rightNumber := ofBe_addressAt fits rightBelow
  rw [same] at leftNumber
  omega

theorem newIPAllocator_ok {cidr : GoString} {network : IPNet} {four : IP}
    (parsed : parseCIDR cidr = some network) (short : to4 network.ip = some four) :
    Fits (ofBe four) (2 ^ network.hostBits) ∧
      newIPAllocator cidr = some (.ok
        { network := network
          gateway := addressAt (ofBe four) 1
          next := start
          max := 2 ^ network.hostBits - 1
          used := fun _ => false }) := by
  have ⟨few, aligned⟩ := parseCIDR_to4_aligned parsed short
  have small : ofBe four < 2 ^ 32 := by
    have bound := ofBe_lt four
    rw [to4_length short] at bound
    exact bound
  have positive : 0 < 2 ^ network.hostBits := Nat.two_pow_pos _
  refine ⟨aligned_add_le few small aligned, ?_⟩
  have wrapped := wrapped_size_sub few (Nat.succ_le_of_lt positive) Nat.one_pos
  unfold newIPAllocator
  rw [parsed]
  simp only [short]
  rw [← wrapped]
  rfl

/-- The next allocation serves the lowest free offset between gateway and broadcast. -/
structure ServesLowest (base size : Nat) (gateway : IP) (outstanding : Finset IP)
    (allocator : IPAllocator) : Prop where
  returns : ∃ result, allocator.allocate = some result
  lowest : ∀ ip next, allocator.allocate = some (.ok (ip, next)) → ∃ o, ip = addressAt base o ∧
    IsLeast {o | 2 ≤ o ∧ o < size - 1 ∧ addressAt base o ∉ outstanding} o
  reserved : ∀ ip next, allocator.allocate = some (.ok (ip, next)) → ip ∉ outstanding ∧
    ip ≠ addressAt base 0 ∧ ip ≠ gateway ∧ ip ≠ addressAt base (size - 1)
  exhausted : (∃ error, allocator.allocate = some (.error error)) ↔
    ∀ o, 2 ≤ o → o < size - 1 → addressAt base o ∈ outstanding

structure Tracks (network : IPNet) (base size : Nat) (outstanding : Finset IP)
    (allocator : IPAllocator) : Prop where
  network : allocator.network = network
  max : allocator.max = size - 1
  issues : allocator.toCursor.Issues start (size - 1) (addressAt base) outstanding

section Runs

variable {network : IPNet} {four ip : IP} {size : Nat} {outstanding : Finset IP}
  {allocator next : IPAllocator}

theorem inRange_injective {base : Nat} (fits : Fits base size) :
    Set.InjOn (addressAt base) (Set.Iio (size - 1)) :=
  (addressAt_injective fits).mono (Set.Iio_subset_Iio (Nat.sub_le size 1))

section

variable (short : to4 network.ip = some four)
  (tracks : Tracks network (ofBe four) size outstanding allocator)

include short tracks

theorem Tracks.based : to4 allocator.network.ip = some four := by
  rw [tracks.network]
  exact short

theorem Tracks.allocate_eq :
    allocator.allocate =
      match allocator.toCursor.allocate start (size - 1) with
      | some (offset, cursor) =>
        some (.ok (addressAt (ofBe four) offset, { allocator with toCursor := cursor }))
      | none => some (.error .exhausted) := by
  unfold allocate
  rw [tracks.based short, tracks.max]

theorem Tracks.release_total (ip : IP) : ∃ next, allocator.release ip = some next := by
  unfold IPAllocator.release
  cases to4 ip with
  | none => exact ⟨allocator, rfl⟩
  | some ip4 =>
    rw [tracks.based short]
    exact ⟨_, rfl⟩

variable (fits : Fits (ofBe four) size)

include fits

theorem Tracks.allocate (allocated : allocator.allocate = some (.ok (ip, next))) :
    Tracks network (ofBe four) size (insert ip outstanding) next := by
  rw [tracks.allocate_eq short] at allocated
  cases search : allocator.toCursor.allocate start (size - 1) with
  | none => simp [search] at allocated
  | some pair =>
    have ⟨_, issues⟩ := tracks.issues.allocate_some (inRange_injective fits) (Nat.le_refl _) search
    simp only [search, Option.some.injEq, Except.ok.injEq, Prod.mk.injEq] at allocated
    rw [← allocated.1, ← allocated.2]
    exact ⟨tracks.network, tracks.max, issues⟩

theorem Tracks.release {ip4 : IP} (form : to4 ip = some ip4)
    (member : ip4 ∈ outstanding) (released : allocator.release ip = some next) :
    Tracks network (ofBe four) size (outstanding.erase ip4) next := by
  have ⟨offset, below, address, issues⟩ := tracks.issues.release (inRange_injective fits) member
  have number := ofBe_addressAt fits (Nat.lt_of_lt_of_le below (Nat.sub_le size 1))
  have freed : (ofBe ip4 + (2 ^ 32 - ofBe four)) % 2 ^ 32 = offset := by
    rw [address]
    unfold Fits at fits
    omega
  unfold IPAllocator.release at released
  rw [form] at released
  simp only [tracks.based short, freed, Option.some.injEq] at released
  rw [← released]
  exact ⟨tracks.network, tracks.max, issues⟩

theorem Tracks.servesLowest :
    ServesLowest (ofBe four) size (addressAt (ofBe four) 1) outstanding allocator := by
  have injective := addressAt_injective fits
  have outcome := tracks.allocate_eq short
  cases search : allocator.toCursor.allocate start (size - 1) with
  | none =>
    rw [search] at outcome
    have full := (tracks.issues.allocate_none (inRange_injective fits) (Nat.le_refl _)).mp search
    refine ⟨⟨_, outcome⟩, fun ip next allocated => ?_, fun ip next allocated => ?_, ?_⟩
    · simp [outcome] at allocated
    · simp [outcome] at allocated
    · exact ⟨fun _ => full, fun _ => ⟨_, outcome⟩⟩
  | some pair =>
    rw [search] at outcome
    have ⟨least, _⟩ := tracks.issues.allocate_some (inRange_injective fits) (Nat.le_refl _) search
    have above : 2 ≤ pair.1 := least.1.1
    have below : pair.1 < size - 1 := least.1.2.1
    have apart (o : Nat) (bound : o < size) (different : pair.1 ≠ o) :
        addressAt (ofBe four) pair.1 ≠ addressAt (ofBe four) o :=
      fun same => different (injective (show pair.1 < size by omega) bound same)
    refine ⟨⟨_, outcome⟩, fun ip next allocated => ?_, fun ip next allocated => ?_, ?_⟩
    · simp only [outcome, Option.some.injEq, Except.ok.injEq, Prod.mk.injEq] at allocated
      exact ⟨pair.1, allocated.1.symm, least⟩
    · simp only [outcome, Option.some.injEq, Except.ok.injEq, Prod.mk.injEq] at allocated
      rw [← allocated.1]
      exact ⟨least.1.2.2, apart 0 (by omega) (by omega), apart 1 (by omega) (by omega),
        apart (size - 1) (by omega) (by omega)⟩
    · constructor
      · rintro ⟨error, failed⟩
        simp [outcome] at failed
      · intro full
        exact absurd (full pair.1 above below) least.1.2.2

end

theorem Tracks.length {base : Nat}
    (tracks : Tracks network base size outstanding allocator) (member : ip ∈ outstanding) :
    ip.length = 4 := by
  have ⟨taken, _, _, issued⟩ := tracks.issues
  rw [issued, mem_image] at member
  have ⟨offset, _, address⟩ := member
  rw [← address]
  exact beBytes_length 4 _

theorem Run.tracks {initial : IPAllocator} (short : to4 network.ip = some four)
    (fits : Fits (ofBe four) size) (fresh : Tracks network (ofBe four) size ∅ initial)
    (run : initial.Run outstanding allocator) :
    Tracks network (ofBe four) size outstanding allocator := by
  induction run with
  | initial => exact fresh
  | allocate _ allocated ih => exact ih.allocate short fits allocated
  | release _ form member released ih => exact ih.release short fits form member released

end Runs

/-- In every run on an IPv4 network, of any prefix length, the allocator serves the lowest free
offset, and neither operation panics. -/
theorem allocate_lowest_free (cidr : GoString) (network : IPNet) (four : IP)
    (parsed : parseCIDR cidr = some network) (short : to4 network.ip = some four) :
    ∃ initial, newIPAllocator cidr = some (.ok initial) ∧
      initial.gateway = addressAt (ofBe four) 1 ∧
      ∀ outstanding allocator, initial.Run outstanding allocator →
        ServesLowest (ofBe four) (2 ^ network.hostBits) initial.gateway outstanding allocator ∧
          ∀ ip, ∃ next, allocator.release ip = some next := by
  have ⟨fits, created⟩ := newIPAllocator_ok parsed short
  refine ⟨_, created, rfl, fun outstanding allocator run => ?_⟩
  have tracks := run.tracks short fits ⟨rfl, rfl, Cursor.issues_empty _ _ _⟩
  exact ⟨tracks.servesLowest short fits, tracks.release_total short⟩

theorem allocate_lowest_free_slash30 :
    parseCIDR (lit "10.7.0.0/30") = some ⟨[10, 7, 0, 0], [255, 255, 255, 252]⟩ ∧
      ∃ initial, newIPAllocator (lit "10.7.0.0/30") = some (.ok initial) ∧
        initial.gateway = [10, 7, 0, 1] ∧
        ∀ outstanding allocator, initial.Run outstanding allocator →
          ServesLowest 0x0a070000 4 initial.gateway outstanding allocator ∧
            ∀ ip, ∃ next, allocator.release ip = some next :=
  ⟨by decide +kernel,
    allocate_lowest_free (lit "10.7.0.0/30") ⟨[10, 7, 0, 0], [255, 255, 255, 252]⟩ [10, 7, 0, 0]
      (by decide +kernel) rfl⟩

end IPAllocator

/-! ## IPv6 -/

structure IPv6Allocator extends Cursor where
  network : IPNet
  prefixBytes : List UInt8
  max : Nat

/-- An allocator for a textual IPv6 network of at most 64 bits. -/
def newIPv6Allocator (cidr : GoString) : Except AllocatorError IPv6Allocator :=
  match parseCIDR cidr with
  | none => .error (.parseCIDR cidr)
  | some network =>
    if (to4 network.ip).isSome then .error (.notIPv6 cidr)
    else
      let (ones, _) := network.size
      if 64 < ones then .error (.longerThan64 ones)
      else
        let hostBits := 128 - ones
        .ok
          { network := network
            prefixBytes := (to16 network.ip).getD (List.replicate 16 0)
            next := start
            max := if 64 ≤ hostBits then 2 ^ 64 - 1 else 2 ^ hostBits - 1
            used := fun _ => false }

namespace IPv6Allocator

def searchLimit : Nat := 10000

variable (allocator : IPv6Allocator)

def makeIP (offset : Nat) : IP :=
  allocator.prefixBytes.take 8 ++ beBytes 8 offset

/-- End of the forward search: the end of the range or the machine sum of cursor and limit. -/
def searchStop : Nat :=
  min allocator.max ((allocator.next + searchLimit) % 2 ^ 64)

def allocate (allocator : IPv6Allocator) : Except AllocatorError (IP × IPv6Allocator) :=
  match allocator.toCursor.allocate start allocator.searchStop with
  | some (offset, cursor) => .ok (allocator.makeIP offset, { allocator with toCursor := cursor })
  | none => .error .exhausted

/-- Release by the low eight bytes; an address of any other length is ignored. -/
def release (allocator : IPv6Allocator) (ip : IP) : IPv6Allocator :=
  match to16 ip with
  | none => allocator
  | some ip16 => { allocator with toCursor := allocator.toCursor.release (ofBe (ip16.drop 8)) }

def gateway : IP := allocator.makeIP 1

inductive Run (initial : IPv6Allocator) : Finset IP → IPv6Allocator → Prop
  | initial : Run initial ∅ initial
  | allocate {outstanding : Finset IP} {allocator next : IPv6Allocator} {ip : IP} :
      Run initial outstanding allocator → allocator.allocate = .ok (ip, next) →
      Run initial (insert ip outstanding) next
  | release {outstanding : Finset IP} {allocator : IPv6Allocator} {ip : IP} :
      Run initial outstanding allocator → ip ∈ outstanding →
      Run initial (outstanding.erase ip) (allocator.release ip)

/-- The leading bits of a sixteen-byte address are those of the network. -/
def InPrefix (network : IPNet) (ip : IP) : Prop :=
  ip.length = 16 ∧
    ofBe ip / 2 ^ network.hostBits = ofBe network.ip / 2 ^ network.hostBits

/-- A fresh cursor, the sixteen network bytes and at least 64 host bits. -/
structure Accepted (initial : IPv6Allocator) : Prop where
  fresh : initial.toCursor = ⟨start, fun _ => false⟩
  bytes : initial.prefixBytes = initial.network.ip
  length : initial.network.ip.length = 16
  hostBits : 64 ≤ initial.network.hostBits
  max : initial.max = 2 ^ 64 - 1

theorem newIPv6Allocator_accepted {cidr : GoString} {initial : IPv6Allocator}
    (created : newIPv6Allocator cidr = .ok initial) : Accepted initial := by
  unfold newIPv6Allocator at created
  cases parsed : parseCIDR cidr with
  | none =>
    rw [parsed] at created
    contradiction
  | some network =>
    have ⟨address, ones, valid, fits, same⟩ := parseCIDR_networkOf parsed
    have size := networkOf_size address ones valid fits
    rw [← same] at size
    simp only [parsed, size] at created
    cases address with
    | zero => contradiction
    | v4 value =>
      have ⟨length, _⟩ := networkOf_v4 value ones fits
      rw [← same] at length
      rw [to4_four length, Option.isSome_some] at created
      contradiction
    | v6 value zone =>
      have ⟨length, _⟩ := networkOf_v6 value zone ones fits
      rw [← same] at length
      split at created
      · contradiction
      split at created
      · contradiction
      have whole : to16 network.ip = some network.ip := by
        unfold to16
        rw [if_neg (by rw [length]; decide), if_pos length]
      have wide : 64 ≤ 128 - ones := by omega
      have bits : network.hostBits = 128 - ones := by
        unfold IPNet.hostBits
        rw [size]
        rfl
      have result := Except.ok.inj created
      rw [whole, if_pos wide] at result
      rw [← result]
      exact ⟨rfl, rfl, length, by rw [bits]; exact wide, rfl⟩

section Addresses

variable {initial : IPv6Allocator}

section

variable (accepted : Accepted initial)

include accepted

theorem Accepted.ofBe_makeIP {offset : Nat} (below : offset < 2 ^ 64) :
    ofBe (initial.makeIP offset) = ofBe (initial.network.ip.take 8) * 2 ^ 64 + offset := by
  have low : ofBe (beBytes 8 offset) = offset := ofBe_beBytes_of_lt below
  unfold makeIP
  rw [accepted.bytes, ofBe_append, low, beBytes_length]
  rfl

theorem Accepted.makeIP_length (offset : Nat) : (initial.makeIP offset).length = 16 := by
  unfold makeIP
  rw [accepted.bytes, length_append, length_take, accepted.length]
  rfl

theorem Accepted.makeIP_injective : Set.InjOn initial.makeIP (Set.Iio (2 ^ 64)) := by
  intro left leftBelow right rightBelow same
  have leftNumber := accepted.ofBe_makeIP leftBelow
  have rightNumber := accepted.ofBe_makeIP rightBelow
  rw [same] at leftNumber
  omega

theorem Accepted.makeIP_inPrefix {offset : Nat}
    (below : offset < 2 ^ 64) : InPrefix initial.network (initial.makeIP offset) := by
  have split : 2 ^ initial.network.hostBits = 2 ^ 64 * 2 ^ (initial.network.hostBits - 64) := by
    rw [← Nat.pow_add, Nat.add_sub_cancel' accepted.hostBits]
  have width : (initial.network.ip.drop 8).length = 8 := by
    rw [length_drop, accepted.length]
  have host : ofBe (initial.network.ip.drop 8) < 2 ^ 64 := by
    have bound := ofBe_lt (initial.network.ip.drop 8)
    rw [width] at bound
    exact bound
  have whole : ofBe initial.network.ip =
      ofBe (initial.network.ip.take 8) * 2 ^ 64 + ofBe (initial.network.ip.drop 8) := by
    have joined := ofBe_append (initial.network.ip.take 8) (initial.network.ip.drop 8)
    rw [take_append_drop, width] at joined
    exact joined
  have high (low : Nat) (small : low < 2 ^ 64) :
      (ofBe (initial.network.ip.take 8) * 2 ^ 64 + low) / 2 ^ 64 =
        ofBe (initial.network.ip.take 8) := by
    omega
  refine ⟨accepted.makeIP_length offset, ?_⟩
  rw [accepted.ofBe_makeIP below, whole, split, ← Nat.div_div_eq_div_mul, high offset below,
    ← Nat.div_div_eq_div_mul, high _ host]

theorem Accepted.release_makeIP (allocator : IPv6Allocator)
    {offset : Nat} (below : offset < 2 ^ 64) :
    allocator.release (initial.makeIP offset) =
      { allocator with toCursor := allocator.toCursor.release offset } := by
  have length := accepted.makeIP_length offset
  have whole : to16 (initial.makeIP offset) = some (initial.makeIP offset) := by
    unfold to16
    rw [if_neg (by rw [length]; decide), if_pos length]
  have low : ofBe ((initial.makeIP offset).drop 8) = offset := by
    unfold makeIP
    rw [accepted.bytes, drop_left' (by rw [length_take, accepted.length]; rfl)]
    exact ofBe_beBytes_of_lt below
  unfold IPv6Allocator.release
  rw [whole]
  simp only [low]

end

end Addresses

/-- The network bytes, the range, and a cursor that has issued the outstanding addresses. -/
structure Tracks (initial : IPv6Allocator) (outstanding : Finset IP) (allocator : IPv6Allocator) :
    Prop where
  bytes : allocator.prefixBytes = initial.prefixBytes
  max : allocator.max = 2 ^ 64 - 1
  issues : allocator.toCursor.Issues start (2 ^ 64) initial.makeIP outstanding

section Runs

variable {initial allocator : IPv6Allocator} {outstanding : Finset IP}

theorem Tracks.makeIP_eq (tracks : Tracks initial outstanding allocator) (offset : Nat) :
    allocator.makeIP offset = initial.makeIP offset := by
  unfold makeIP
  rw [tracks.bytes]

theorem searchStop_le (allocator : IPv6Allocator) : allocator.searchStop ≤ 2 ^ 64 := by
  unfold searchStop
  omega

theorem Tracks.allocate (accepted : Accepted initial)
    (tracks : Tracks initial outstanding allocator) {ip : IP} {next : IPv6Allocator}
    (allocated : allocator.allocate = .ok (ip, next)) :
    Tracks initial (insert ip outstanding) next ∧ ∃ o, ip = initial.makeIP o ∧
      next.next = o + 1 ∧
      IsLeast {o | start ≤ o ∧ o < allocator.searchStop ∧ initial.makeIP o ∉ outstanding} o := by
  unfold IPv6Allocator.allocate at allocated
  cases search : allocator.toCursor.allocate start allocator.searchStop with
  | none => simp [search] at allocated
  | some pair =>
    have ⟨least, issues⟩ := tracks.issues.allocate_some accepted.makeIP_injective
      (searchStop_le _) search
    have moved := Cursor.allocate_next search
    simp only [search, Except.ok.injEq, Prod.mk.injEq] at allocated
    rw [← allocated.1, ← allocated.2, tracks.makeIP_eq]
    exact ⟨⟨tracks.bytes, tracks.max, issues⟩, pair.1, rfl, moved, least⟩

theorem Tracks.allocate_error (accepted : Accepted initial)
    (tracks : Tracks initial outstanding allocator) :
    allocator.allocate = .error .exhausted ↔
      ∀ o, start ≤ o → o < allocator.searchStop → initial.makeIP o ∈ outstanding := by
  rw [← tracks.issues.allocate_none accepted.makeIP_injective (searchStop_le _)]
  unfold IPv6Allocator.allocate
  cases search : allocator.toCursor.allocate start allocator.searchStop with
  | none | some pair => simp

theorem allocate_error_only {error : AllocatorError} (failed : allocator.allocate = .error error) :
    error = .exhausted := by
  unfold IPv6Allocator.allocate at failed
  split at failed
  · contradiction
  · exact (Except.error.inj failed).symm

theorem Tracks.release (accepted : Accepted initial)
    (tracks : Tracks initial outstanding allocator) {ip : IP} (member : ip ∈ outstanding) :
    Tracks initial (outstanding.erase ip) (allocator.release ip) := by
  have ⟨offset, below, address, issues⟩ := tracks.issues.release accepted.makeIP_injective member
  rw [address] at issues ⊢
  rw [accepted.release_makeIP allocator below]
  exact ⟨tracks.bytes, tracks.max, issues⟩

theorem Run.tracks (accepted : Accepted initial) (run : initial.Run outstanding allocator) :
    Tracks initial outstanding allocator := by
  induction run with
  | initial =>
    refine ⟨rfl, accepted.max, ?_⟩
    rw [accepted.fresh]
    exact Cursor.issues_empty _ _ _
  | allocate _ allocated ih => exact (ih.allocate accepted allocated).1
  | release _ member ih => exact ih.release accepted member

/-- The address is not outstanding, lies in the network and is neither at offset zero nor at the
gateway's. -/
def Completes (initial : IPv6Allocator) (outstanding : Finset IP) (allocator : IPv6Allocator) :
    Prop :=
  ∃ ip next, allocator.allocate = .ok (ip, next) ∧ ip ∉ outstanding ∧
    InPrefix initial.network ip ∧ ip ≠ initial.makeIP 0 ∧ ip ≠ initial.gateway

theorem free_of_few (accepted : Accepted initial) (run : initial.Run outstanding allocator)
    (few : outstanding.card < searchLimit) :
    ∃ o, start ≤ o ∧ o < allocator.searchStop ∧ initial.makeIP o ∉ outstanding := by
  have tracks := run.tracks accepted
  have passed := tracks.issues.passed_le_card accepted.makeIP_injective
  have range := tracks.max
  have ⟨taken, accounts, _, _⟩ := tracks.issues
  have started := accounts.started
  unfold searchLimit at few
  unfold start at passed started
  have stop : allocator.searchStop = allocator.next + 10000 := by
    unfold searchStop searchLimit
    omega
  by_contra none
  have included : (Finset.Ico allocator.next (allocator.next + 10000)).image initial.makeIP ⊆
      outstanding := by
    intro ip member
    have ⟨o, inside, same⟩ := mem_image.mp member
    have interval := mem_Ico.mp inside
    by_contra free
    refine none ⟨o, ?_, ?_, ?_⟩
    · unfold start
      omega
    · omega
    · rw [same]
      exact free
  have distinct : Set.InjOn initial.makeIP
      (Finset.Ico allocator.next (allocator.next + 10000)) := by
    intro left leftInside right rightInside same
    have leftBounds := mem_Ico.mp leftInside
    have rightBounds := mem_Ico.mp rightInside
    have leftFits : left < 2 ^ 64 := by omega
    have rightFits : right < 2 ^ 64 := by omega
    exact accepted.makeIP_injective leftFits rightFits same
  have counted := card_le_card included
  rw [card_image_of_injOn distinct, Nat.card_Ico] at counted
  omega

end Runs

/-- At every state of every run, an allocation completes exactly when an address is free below the
end of the forward search, ten thousand offsets past the cursor; other free addresses of the
network are not found. -/
theorem completes_iff_free_in_search (cidr : GoString) (initial allocator : IPv6Allocator)
    (outstanding : Finset IP) (created : newIPv6Allocator cidr = .ok initial)
    (run : initial.Run outstanding allocator) :
    Completes initial outstanding allocator ↔
      ∃ o, start ≤ o ∧ o < allocator.searchStop ∧ initial.makeIP o ∉ outstanding := by
  have accepted := newIPv6Allocator_accepted created
  have tracks := run.tracks accepted
  have failure := tracks.allocate_error accepted
  have stop := searchStop_le allocator
  constructor
  · rintro ⟨ip, next, allocated, _⟩
    have ⟨_, o, _, _, least⟩ := tracks.allocate accepted allocated
    exact ⟨o, least.1⟩
  · rintro ⟨free, above, below, absent⟩
    cases result : allocator.allocate with
    | error error =>
      rw [allocate_error_only result] at result
      exact absurd (failure.mp result free above below) absent
    | ok pair =>
      have ⟨_, o, address, _, least⟩ := tracks.allocate accepted result
      have atLeast : 2 ≤ o := least.1.1
      have small : o < 2 ^ 64 := Nat.lt_of_lt_of_le least.1.2.1 stop
      have apart (other : Nat) (bound : other < 2) : pair.1 ≠ initial.makeIP other := by
        intro same
        rw [address] at same
        have equal := accepted.makeIP_injective small (show other < 2 ^ 64 by omega) same
        omega
      refine ⟨pair.1, pair.2, result, ?_, ?_, apart 0 (by decide), apart 1 (by decide)⟩
      · rw [address]
        exact least.1.2.2
      · rw [address]
        exact accepted.makeIP_inPrefix small

theorem exists_newIPv6Allocator : ∃ initial, newIPv6Allocator (lit "fd00::/64") = .ok initial := by
  cases created : newIPv6Allocator (lit "fd00::/64") with
  | error error =>
    contradiction
  | ok initial => exact ⟨initial, rfl⟩

/-! ## A run that loses the free addresses -/

section Gap

variable {initial allocator : IPv6Allocator} {outstanding : Finset IP}

def firstOffsets (initial : IPv6Allocator) (count : Nat) : Finset IP :=
  (Finset.Ico 2 (count + 2)).image initial.makeIP

section

variable (accepted : Accepted initial)

include accepted

theorem mem_firstOffsets {count o : Nat} (small : count + 2 < 2 ^ 64) (below : o < 2 ^ 64) :
    initial.makeIP o ∈ firstOffsets initial count ↔ 2 ≤ o ∧ o < count + 2 := by
  have inRange : ∀ o ∈ Finset.Ico 2 (count + 2), o < 2 ^ 64 := by
    intro o member
    have bounds := mem_Ico.mp member
    omega
  unfold firstOffsets
  rw [Cursor.mem_image_address accepted.makeIP_injective inRange below, mem_Ico]

theorem Tracks.allocate_first
    (tracks : Tracks initial outstanding allocator) {o : Nat} (above : 2 ≤ o)
    (reached : o < allocator.searchStop) (free : initial.makeIP o ∉ outstanding)
    (lower : ∀ p, 2 ≤ p → p < o → initial.makeIP p ∈ outstanding) :
    ∃ next, allocator.allocate = .ok (initial.makeIP o, next) ∧ next.next = o + 1 := by
  cases result : allocator.allocate with
  | error error =>
    rw [allocate_error_only result] at result
    exact absurd ((tracks.allocate_error accepted).mp result o above reached) free
  | ok pair =>
    have ⟨_, offset, address, moved, least⟩ := tracks.allocate accepted result
    have upper : offset ≤ o := least.2 ⟨above, reached, free⟩
    have same : offset = o := by
      by_contra different
      exact least.1.2.2 (lower offset least.1.1 (by omega))
    rw [same] at address moved
    refine ⟨pair.2, ?_, moved⟩
    rw [← address]

theorem run_firstOffsets (count : Nat) (small : count + 2 + searchLimit < 2 ^ 64) :
    ∃ allocator, initial.Run (firstOffsets initial count) allocator ∧
      allocator.next = count + 2 := by
  unfold searchLimit at small
  induction count with
  | zero =>
    refine ⟨initial, ?_, congrArg Cursor.next accepted.fresh⟩
    exact .initial
  | succ count ih =>
    have ⟨allocator, run, cursor⟩ := ih (by omega)
    have tracks := run.tracks accepted
    have range := tracks.max
    have stop : allocator.searchStop = count + 2 + 10000 := by
      unfold searchStop searchLimit
      omega
    have free : initial.makeIP (count + 2) ∉ firstOffsets initial count := by
      rw [mem_firstOffsets accepted (by omega) (by omega)]
      omega
    have ⟨next, allocated, moved⟩ := tracks.allocate_first accepted (by omega) (by omega) free
      fun p above below => (mem_firstOffsets accepted (by omega) (by omega)).mpr ⟨above, below⟩
    refine ⟨next, ?_, by omega⟩
    have grown : firstOffsets initial (count + 1) =
        insert (initial.makeIP (count + 2)) (firstOffsets initial count) := by
      have interval : Finset.Ico 2 (count + 1 + 2) =
          insert (count + 2) (Finset.Ico 2 (count + 2)) := by
        ext o
        rw [mem_insert, mem_Ico, mem_Ico]
        omega
      unfold firstOffsets
      rw [interval, image_insert]
    rw [grown]
    exact run.allocate allocated

theorem run_behind_outstanding :
    ∃ allocator, initial.Run (firstOffsets initial 10001) allocator ∧
      allocator.allocate = .error .exhausted := by
  have ⟨filled, run, cursor⟩ := run_firstOffsets accepted 10001 (by decide)
  have held : initial.makeIP 2 ∈ firstOffsets initial 10001 :=
    (mem_firstOffsets accepted (by decide) (by decide)).mpr (by decide)
  have released := run.release held
  have releasedTracks := released.tracks accepted
  have back : (filled.release (initial.makeIP 2)).next = 2 := by
    rw [accepted.release_makeIP filled (by decide)]
    change (if 2 < filled.next then 2 else filled.next) = 2
    rw [cursor]
    decide
  have range := releasedTracks.max
  have stop : (filled.release (initial.makeIP 2)).searchStop = 10002 := by
    unfold searchStop searchLimit
    rw [back, range]
    decide
  have ⟨again, allocated, moved⟩ := releasedTracks.allocate_first accepted (Nat.le_refl 2)
    (by rw [stop]; decide) (notMem_erase _ _) fun p above below => by omega
  have retaken := released.allocate allocated
  rw [insert_erase held] at retaken
  have retakenTracks := retaken.tracks accepted
  refine ⟨again, retaken, (retakenTracks.allocate_error accepted).mpr fun o above below => ?_⟩
  have finalRange := retakenTracks.max
  have finalStop : again.searchStop = 10003 := by
    unfold searchStop searchLimit
    rw [moved, finalRange]
    decide
  exact (mem_firstOffsets accepted (by decide) (by omega)).mpr ⟨above, by omega⟩

end

end Gap

/-- After three allocations and a release. -/
theorem completes_after_release : ∃ initial allocator,
    newIPv6Allocator (lit "fd00::/64") = .ok initial ∧
      initial.Run ((firstOffsets initial 3).erase (initial.makeIP 2)) allocator ∧
      Completes initial ((firstOffsets initial 3).erase (initial.makeIP 2)) allocator := by
  have ⟨initial, created⟩ := exists_newIPv6Allocator
  have accepted := newIPv6Allocator_accepted created
  have ⟨filled, run, _⟩ := run_firstOffsets accepted 3 (by decide)
  have held : initial.makeIP 2 ∈ firstOffsets initial 3 :=
    (mem_firstOffsets accepted (by decide) (by decide)).mpr (by decide)
  have released := run.release held
  have counted : (firstOffsets initial 3).card ≤ 3 := card_image_le
  have few := (card_le_card (erase_subset (initial.makeIP 2) _)).trans_lt
    (counted.trans_lt (by decide : 3 < searchLimit))
  exact ⟨initial, _, created, released, (completes_iff_free_in_search _ _ _ _ created released).mpr
    (free_of_few accepted released few)⟩

/-- A /64 network, ten thousand and one allocations, a release of the first address and one more
allocation. -/
theorem exhausted_with_free_addresses : ∃ initial allocator outstanding,
    newIPv6Allocator (lit "fd00::/64") = .ok initial ∧ initial.Run outstanding allocator ∧
      outstanding.card < initial.max - 2 ∧ allocator.allocate = .error .exhausted := by
  have ⟨initial, created⟩ := exists_newIPv6Allocator
  have accepted := newIPv6Allocator_accepted created
  have ⟨allocator, run, failed⟩ := run_behind_outstanding accepted
  refine ⟨initial, allocator, firstOffsets initial 10001, created, run, ?_, failed⟩
  have counted : (firstOffsets initial 10001).card ≤ (Finset.Ico 2 (10001 + 2)).card :=
    card_image_le
  rw [Nat.card_Ico] at counted
  rw [accepted.max]
  omega

end IPv6Allocator

end Shuttle.Mesh
