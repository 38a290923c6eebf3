import Shuttle.Go.Net
import Shuttle.Lib.RingTable

/-!
# The fake-IP pool

Domains are given addresses of an IPv4 prefix in turn, without the network and broadcast addresses.
When the addresses are used up the next one in ring order is taken from its domain. Looking up a
domain does not refresh its address, so a returned address is kept for a whole turn of the ring only
if it was the last one allocated.
-/

namespace Shuttle.FakeIP

open Shuttle.Go Shuttle.Lib RingTable

/-- A `netip.Prefix`: an address without a zone and a length, minus one for an invalid length. -/
structure Prefix where
  addr : Addr
  bits : Int

/-- `Prefix.Masked`; none for what `IsValid` rejects. -/
def Prefix.masked (cidr : Prefix) : Option (Addr × Nat) :=
  if cidr.bits < 0 then none
  else
    match cidr.addr with
    | .zero => none
    | .v4 value =>
      let bits := cidr.bits.toNat
      if 32 < bits then none
      else some (.v4 (UInt32.ofNat (value.toNat / 2 ^ (32 - bits) * 2 ^ (32 - bits))), bits)
    | .v6 value _ =>
      let bits := cidr.bits.toNat
      if 128 < bits then none
      else
        some (.v6 (BitVec.ofNat 128 (value.toNat / 2 ^ (128 - bits) * 2 ^ (128 - bits))) [], bits)

inductive PoolError where
  | invalid
  | notIPv4
  /-- The prefix is longer than 30 bits. -/
  | tooSmall
  | noUsable

/-- The pool; its mutex makes each lookup one step. -/
structure Pool where
  start : Addr
  size : Nat
  next : Nat
  forward : GoMap GoString Addr
  reverse : GoMap Addr GoString

def newPool (cidr : Prefix) : Except PoolError Pool :=
  match cidr.masked with
  | none => .error .invalid
  | some (addr, bits) =>
    match addr with
    | .v4 _ =>
      if 30 < bits then .error .tooSmall
      else
        let total := 2 ^ (32 - bits) % 2 ^ 32
        let usable := (total + (2 ^ 32 - 2)) % 2 ^ 32
        if usable = 0 then .error .noUsable
        else
          .ok
            { start := addr.next
              size := usable
              next := 0
              forward := GoMap.empty
              reverse := GoMap.empty }
    | _ => .error .notIPv4

namespace Pool

variable (pool : Pool)

def addrAt (idx : Nat) : Addr := Addr.next^[idx] pool.start

def lookup (domain : GoString) : Addr × Pool :=
  match pool.forward domain with
  | some ip => (ip, pool)
  | none =>
    let ip := pool.addrAt pool.next
    let forward :=
      match pool.reverse ip with
      | some old => if old ≠ domain then pool.forward.delete old else pool.forward
      | none => pool.forward
    (ip,
      { pool with
        forward := forward.set domain ip
        reverse := pool.reverse.set ip domain
        next := (pool.next + 1) % 2 ^ 32 % pool.size })

def run (pool : Pool) : List GoString → Pool
  | [] => pool
  | domain :: domains => (pool.lookup domain).2.run domains

/-- How many of the domains were allocated an address when they were looked up. -/
def allocations (pool : Pool) : List GoString → Nat
  | [] => 0
  | domain :: domains =>
    (if pool.forward domain = none then 1 else 0) + (pool.lookup domain).2.allocations domains

def Bijective : Prop :=
  ∀ domain ip, pool.forward domain = some ip ↔ pool.reverse ip = some domain

/-- Strictly between the network and broadcast addresses of a prefix. -/
def Usable (network : UInt32) (bits : Nat) (ip : Addr) : Prop :=
  ∃ value : UInt32, ip = .v4 value ∧ network.toNat < value.toNat ∧
    value.toNat < network.toNat + 2 ^ (32 - bits) - 1

/-- The address that a look-up returns is the domain's through every later run of fewer than `size`
allocations. -/
def Retains (domain : GoString) : Prop :=
  ∀ domains, (pool.lookup domain).2.allocations domains < pool.size →
    ((pool.lookup domain).2.run domains).reverse (pool.lookup domain).1 = some domain

/-! ## The pool as a ring table -/

def table : RingTable GoString Addr where
  size := pool.size
  next := pool.next
  slot := pool.addrAt
  forward := pool.forward
  reverse := pool.reverse

theorem next_eq_advance {next size : Nat} (cursor : next < size) (word : size ≤ 2 ^ 32) :
    (next + 1) % 2 ^ 32 % size = advance next size := by
  unfold advance
  by_cases inside : next + 1 < size
  · rw [if_pos inside, Nat.mod_eq_of_lt (show next + 1 < 2 ^ 32 by omega), Nat.mod_eq_of_lt inside]
  have last : next + 1 = size := by omega
  rw [if_neg inside, last]
  by_cases full : size = 2 ^ 32
  · rw [full, Nat.mod_self, Nat.zero_mod]
  · rw [Nat.mod_eq_of_lt (show size < 2 ^ 32 by omega), Nat.mod_self]

variable {pool : Pool} {network : UInt32} {bits : Nat} {cidr : Prefix}

theorem lookup_table (formed : pool.table.WellFormed) (word : pool.size ≤ 2 ^ 32)
    (domain : GoString) : (pool.lookup domain).1 = (pool.table.lookup domain).1 ∧
      (pool.lookup domain).2.table = (pool.table.lookup domain).2 ∧
      (pool.lookup domain).2.size = pool.size := by
  cases found : pool.forward domain with
  | some ip =>
    have hit : pool.table.forward domain = some ip := found
    rw [lookup_hit hit]
    unfold lookup
    rw [found]
    exact ⟨rfl, rfl, rfl⟩
  | none =>
    have miss : pool.table.forward domain = none := found
    have moved : (pool.next + 1) % 2 ^ 32 % pool.size = advance pool.next pool.size :=
      next_eq_advance formed.cursor word
    have evicted : (match pool.reverse (pool.addrAt pool.next) with
        | some old => if old ≠ domain then pool.forward.delete old else pool.forward
        | none => pool.forward) = pool.table.evict (pool.addrAt pool.next) := by
      unfold evict
      cases occupied : pool.reverse (pool.addrAt pool.next) with
      | none =>
        have free : pool.table.reverse (pool.addrAt pool.next) = none := occupied
        rw [free]
        rfl
      | some old =>
        have taken : pool.table.reverse (pool.addrAt pool.next) = some old := occupied
        have other : old ≠ domain := by
          intro same
          have held := (formed.inverse old _).mpr taken
          rw [same, miss] at held
          contradiction
        rw [taken]
        dsimp only
        rw [if_pos other]
        rfl
    rw [lookup_miss miss]
    unfold lookup
    rw [found]
    dsimp only
    rw [evicted, moved]
    exact ⟨rfl, rfl, rfl⟩

theorem run_table (domains : List GoString) {pool : Pool} (formed : pool.table.WellFormed)
    (word : pool.size ≤ 2 ^ 32) :
    (pool.run domains).table = pool.table.run domains ∧
      pool.allocations domains = pool.table.allocations domains ∧
      (pool.run domains).size = pool.size := by
  induction domains generalizing pool with
  | nil =>
    exact ⟨rfl, rfl, rfl⟩
  | cons domain domains ih =>
    have ⟨_, same, size⟩ := lookup_table formed word domain
    have following := formed.lookup domain
    rw [← same] at following
    rw [← size] at word
    have ⟨ran, counted, kept⟩ := ih following word
    unfold run allocations RingTable.run RingTable.allocations
    rw [← same]
    refine ⟨ran, ?_, kept.trans size⟩
    rw [counted]
    rfl

theorem run_addrAt (domains : List GoString) :
    ∀ (pool : Pool), (pool.run domains).addrAt = pool.addrAt := by
  induction domains with
  | nil =>
    intro pool
    rfl
  | cons domain domains ih =>
    intro pool
    have same : (pool.lookup domain).2.addrAt = pool.addrAt := by
      unfold lookup
      cases pool.forward domain with
      | some ip | none => rfl
    unfold run
    rw [ih, same]

theorem retains_table (formed : pool.table.WellFormed) (word : pool.size ≤ 2 ^ 32)
    (domain : GoString) : pool.Retains domain ↔ pool.table.Retains domain := by
  have ⟨returned, same, size⟩ := lookup_table formed word domain
  have following := formed.lookup domain
  rw [← same] at following
  rw [← size] at word
  unfold Retains RingTable.Retains
  rw [← same, ← returned]
  refine forall_congr' fun domains => ?_
  have ⟨ran, counted, _⟩ := run_table domains following word
  rw [counted, ← ran]
  rfl

/-! ## Accepted prefixes -/

theorem iterate_next (value : Nat) (steps : Nat) (fits : value + steps < 2 ^ 32) :
    Addr.next^[steps] (.v4 (UInt32.ofNat value)) = .v4 (UInt32.ofNat (value + steps)) := by
  induction steps with
  | zero => rfl
  | succ steps ih =>
    rw [Function.iterate_succ_apply', ih (by omega)]
    have sum : UInt32.ofNat (value + steps) + 1 = UInt32.ofNat (value + (steps + 1)) :=
      (UInt32.ofNat_add (value + steps) 1).symm
    have nonzero : UInt32.ofNat (value + (steps + 1)) ≠ 0 := by
      intro zero
      have number := congrArg UInt32.toNat zero
      rw [UInt32.toNat_ofNat_of_lt' fits] at number
      change value + (steps + 1) = 0 at number
      omega
    unfold Addr.next
    dsimp only
    rw [sum, if_neg nonzero]

/-- Addresses count up from the one after the network's and end before the broadcast address. -/
structure Covers (network : UInt32) (bits : Nat) (pool : Pool) : Prop where
  short : bits ≤ 30
  fits : network.toNat + 2 ^ (32 - bits) ≤ 2 ^ 32
  start : pool.start = .v4 (UInt32.ofNat (network.toNat + 1))
  size : pool.size = 2 ^ (32 - bits) - 2

section

variable (covers : Covers network bits pool)

include covers

theorem Covers.four_le : 4 ≤ 2 ^ (32 - bits) := by
  have short := covers.short
  have grows : 2 ^ 2 ≤ 2 ^ (32 - bits) := Nat.pow_le_pow_right (by decide) (by omega)
  exact grows

theorem Covers.addrAt {idx : Nat} (below : idx < pool.size) :
    pool.addrAt idx = .v4 (UInt32.ofNat (network.toNat + 1 + idx)) := by
  have fits := covers.fits
  have size := covers.size
  unfold Pool.addrAt
  rw [covers.start]
  exact iterate_next (network.toNat + 1) idx (by omega)

theorem Covers.usable {idx : Nat} (below : idx < pool.size) :
    Usable network bits (pool.addrAt idx) := by
  have fits := covers.fits
  have size := covers.size
  have number : (UInt32.ofNat (network.toNat + 1 + idx)).toNat = network.toNat + 1 + idx :=
    UInt32.toNat_ofNat_of_lt' (show network.toNat + 1 + idx < 2 ^ 32 by omega)
  refine ⟨UInt32.ofNat (network.toNat + 1 + idx), covers.addrAt below, ?_, ?_⟩ <;> omega

theorem Covers.injective : Set.InjOn pool.addrAt (Set.Iio pool.size) := by
  intro left leftBelow right rightBelow same
  have fits := covers.fits
  have size := covers.size
  have leftInside : left < pool.size := leftBelow
  have rightInside : right < pool.size := rightBelow
  rw [covers.addrAt leftInside, covers.addrAt rightInside] at same
  have words := congrArg UInt32.toNat (Addr.v4.inj same)
  rw [UInt32.toNat_ofNat_of_lt' (show network.toNat + 1 + left < 2 ^ 32 by omega),
    UInt32.toNat_ofNat_of_lt' (show network.toNat + 1 + right < 2 ^ 32 by omega)] at words
  omega

end

theorem masked_v4 (masked : cidr.masked = some (.v4 network, bits)) :
    network.toNat + 2 ^ (32 - bits) ≤ 2 ^ 32 := by
  unfold Prefix.masked at masked
  split at masked
  · contradiction
  split at masked
  · contradiction
  · rename_i value _
    dsimp only at masked
    split at masked
    · contradiction
    · have same := Option.some.inj masked
      have length : cidr.bits.toNat = bits := congrArg Prod.snd same
      have word := Addr.v4.inj (congrArg Prod.fst same)
      rw [length] at word
      have lower : value.toNat / 2 ^ (32 - bits) * 2 ^ (32 - bits) ≤ value.toNat :=
        Nat.div_mul_le_self _ _
      have bound := value.toNat_lt
      have number : network.toNat = value.toNat / 2 ^ (32 - bits) * 2 ^ (32 - bits) := by
        rw [← word]
        exact UInt32.toNat_ofNat_of_lt' (Nat.lt_of_le_of_lt lower bound)
      rw [number]
      exact aligned_add_le (Nat.sub_le 32 bits) (Nat.lt_of_le_of_lt lower bound)
        (Nat.mul_mod_left _ _)
  · dsimp only at masked
    split at masked
    · contradiction
    · have same := Option.some.inj masked
      have family := congrArg Prod.fst same
      contradiction

theorem newPool_covers (created : newPool cidr = .ok pool) :
    ∃ network bits, cidr.masked = some (.v4 network, bits) ∧ Covers network bits pool ∧
      pool.next = 0 ∧ pool.forward = GoMap.empty ∧ pool.reverse = GoMap.empty := by
  unfold newPool at created
  cases masked : cidr.masked with
  | none => simp [masked] at created
  | some pair =>
    have ⟨addr, bits⟩ := pair
    cases addr with
    | zero | v6 value zone => simp [masked] at created
    | v4 network =>
      have fits := masked_v4 masked
      simp only [masked] at created
      split at created
      · contradiction
      split at created
      · cases created
      have result := Except.ok.inj created
      have grows : 2 ^ 2 ≤ 2 ^ (32 - bits) := Nat.pow_le_pow_right (by decide) (by omega)
      have first : Addr.next (.v4 network) = .v4 (UInt32.ofNat (network.toNat + 1)) := by
        have step := iterate_next network.toNat 1 (by omega)
        rw [UInt32.ofNat_toNat] at step
        exact step
      have usable := wrapped_size_sub (Nat.sub_le 32 bits) (show 2 ≤ 2 ^ (32 - bits) by omega)
        (show 0 < 2 by decide)
      rw [← result]
      exact ⟨network, bits, rfl, ⟨by omega, fits, first, usable⟩, rfl, rfl, rfl⟩

theorem newPool_wellFormed (created : newPool cidr = .ok pool) : pool.table.WellFormed := by
  have ⟨network, bits, _, covers, first, noForward, noReverse⟩ := newPool_covers created
  have size := covers.size
  have four := covers.four_le
  refine ⟨?_, covers.injective, fun domain ip => ?_, fun domain ip found => ?_⟩
  · change pool.next < pool.size
    omega
  · change pool.forward domain = some ip ↔ pool.reverse ip = some domain
    rw [noForward, noReverse]
    simp [GoMap.empty]
  · change pool.forward domain = some ip at found
    rw [noForward] at found
    contradiction

/-! ## The contract -/

instance : Infinite GoString := inferInstanceAs (Infinite (List UInt8))

/-- Along every run the table is a bijection, every lookup returns a usable address of the prefix,
and the address is kept through fewer than `size` allocations exactly when the lookup allocated it
or found it to be the last one allocated. -/
theorem lookup_contract (cidr : Prefix) (initial : Pool) (created : newPool cidr = .ok initial)
    (domains : List GoString) :
    (initial.run domains).Bijective ∧
      (∀ left right ip, (initial.run domains).forward left = some ip →
        (initial.run domains).forward right = some ip → left = right) ∧
      (∃ network bits, cidr.masked = some (.v4 network, bits) ∧
        ∀ domain, Usable network bits ((initial.run domains).lookup domain).1) ∧
      ∀ domain, (initial.run domains).Retains domain ↔
        (initial.run domains).forward domain = none ∨
          (initial.run domains).forward domain = some ((initial.run domains).addrAt
            (((initial.run domains).next + (initial.run domains).size - 1) %
              (initial.run domains).size)) := by
  have ⟨network, bits, masked, covers, _⟩ := newPool_covers created
  have wellFormed := newPool_wellFormed created
  have word : initial.size ≤ 2 ^ 32 := by
    have fits := covers.fits
    have size := covers.size
    omega
  have ⟨ran, _, size⟩ := run_table domains wellFormed word
  have formed := wellFormed.run domains
  rw [← ran] at formed
  rw [← size] at word
  refine ⟨formed.inverse, fun left right ip leftHeld rightHeld => ?_, ?_, fun domain => ?_⟩
  · have leftOwner := (formed.inverse left ip).mp leftHeld
    have rightOwner := (formed.inverse right ip).mp rightHeld
    rw [leftOwner] at rightOwner
    exact Option.some.inj rightOwner
  · refine ⟨network, bits, masked, fun domain => ?_⟩
    have ⟨idx, below, returned, _⟩ := formed.lookup_slot domain
    have ⟨same, _, _⟩ := lookup_table formed word domain
    have slots := run_addrAt domains initial
    rw [same, returned]
    change Usable network bits ((initial.run domains).addrAt idx)
    rw [slots]
    exact covers.usable (by rw [← size]; exact below)
  · rw [retains_table formed word domain]
    exact formed.retains_iff domain

def smallest : Pool where
  start := .v4 0xc6120001
  size := 2
  next := 0
  forward := GoMap.empty
  reverse := GoMap.empty

/-- The contract for the smallest accepted prefix: the domain looked up last is retained, the one
before is not. -/
theorem smallest_contract :
    newPool ⟨.v4 0xc6120000, 30⟩ = .ok smallest ∧
      (smallest.run [lit "a", lit "b", lit "c"]).Bijective ∧
      (smallest.run [lit "a", lit "b", lit "c"]).Retains (lit "c") ∧
      ¬(smallest.run [lit "a", lit "b", lit "c"]).Retains (lit "b") := by
  have created : newPool ⟨.v4 0xc6120000, 30⟩ = .ok smallest := rfl
  have ⟨bijective, _, _, retention⟩ := lookup_contract ⟨.v4 0xc6120000, 30⟩ smallest created
    [lit "a", lit "b", lit "c"]
  refine ⟨created, bijective, (retention (lit "c")).mpr (by decide +kernel), fun retains => ?_⟩
  exact absurd ((retention (lit "b")).mp retains) (by decide +kernel)

/-- With two usable addresses, the single allocation of a third domain takes the address that the
first has just been looked up with. -/
theorem evicted_after_one_allocation :
    newPool ⟨.v4 0xc6120000, 30⟩ = .ok smallest ∧
      ((smallest.run [lit "a", lit "b"]).lookup (lit "a")).1 = .v4 0xc6120001 ∧
      ((smallest.run [lit "a", lit "b"]).lookup (lit "a")).2.allocations [lit "c"] <
        smallest.size ∧
      (((smallest.run [lit "a", lit "b"]).lookup (lit "a")).2.run [lit "c"]).reverse
        (.v4 0xc6120001) = some (lit "c") :=
  ⟨rfl, by decide +kernel, by decide +kernel, by decide +kernel⟩

end Pool

end Shuttle.FakeIP
