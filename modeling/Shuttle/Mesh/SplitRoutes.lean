import Shuttle.Go.Net
import Mathlib.Data.Set.Finite.List
import Mathlib.Data.Set.Finite.Lemmas

/-!
# Split routes of the mesh

`RouteMesh` takes the first configured route that contains the address, whatever its prefix length.
Two IPv4 networks are disjoint or one lies within the other, so for an address that lies in a route
and in no longer one, that is the first route which the network of that route lies within.
-/

namespace Shuttle.Mesh

open Shuttle.Go List

structure SplitRoute where
  cidr : IPNet
  action : GoString
deriving DecidableEq

/-- The routes of a configuration of networks and actions; texts that are no network are left
out. -/
def setSplitRoutes (routes : List (GoString × GoString)) : List SplitRoute :=
  routes.filterMap fun (cidr, action) => (parseCIDR cidr).map (⟨·, action⟩)

section Routing

variable (meshNet : IPNet) (routes : List SplitRoute) (ip : IP)

def firstRoute : Option SplitRoute := routes.find? fun route => route.cidr.contains ip

def routeMesh : GoString :=
  match firstRoute routes ip with
  | some route => route.action
  | none => if meshNet.contains ip then lit "mesh" else []

def isMeshDestination : Bool :=
  if !meshNet.contains ip then false else decide (routeMesh meshNet routes ip = lit "mesh")

/-- A matching route with the longest prefix. -/
def Longest (route : SplitRoute) : Prop :=
  route ∈ routes ∧ route.cidr.contains ip = true ∧
    ∀ other ∈ routes, other.cidr.contains ip = true → other.cidr.size.1 ≤ route.cidr.size.1

/-- The network of the first route lies within that of the second. -/
def SplitRoute.within (narrow wide : SplitRoute) : Bool :=
  decide (wide.cidr.size.1 ≤ narrow.cidr.size.1) && wide.cidr.contains narrow.cidr.ip

/-- For every route with an address that is in no longer one, the first route of the list that it
lies within has the action of a route for the same network. -/
def WellOrdered : Prop :=
  ∀ narrow, (∃ ip, Longest routes ip narrow) → ∀ wide, routes.find? narrow.within = some wide →
    ∃ route ∈ routes, route.cidr = narrow.cidr ∧ route.action = wide.action

end Routing

/-! ## IPv4 networks -/

theorem maskBytes_maskBytes (bytes mask other : List UInt8) :
    maskBytes (maskBytes bytes mask) other = maskBytes bytes (maskBytes mask other) := by
  unfold maskBytes
  induction bytes generalizing mask other with
  | nil => simp
  | cons byte bytes ih => cases mask <;> cases other <;> simp [ih, UInt8.and_assoc]

/-- A shorter mask clears what a longer one does and more. -/
theorem maskBytes_leadingMask : ∀ ones fewer : Fin 33, fewer ≤ ones →
    maskBytes (leadingMask 4 ones) (leadingMask 4 fewer) = leadingMask 4 fewer := by
  decide +kernel

/-- A network of IPv4 addresses with a prefix of this length. -/
def Prefix (network : IPNet) (ones : Fin 33) : Prop :=
  ∃ four : IP, four.length = 4 ∧
    network = ⟨maskBytes four (leadingMask 4 ones), leadingMask 4 ones⟩

section Prefixes

variable {network other : IPNet} {ones fewer : Fin 33}

theorem parseCIDR_prefix {text : GoString} (parsed : parseCIDR text = some network)
    (short : network.mask.length = 4) : ∃ ones : Fin 33, Prefix network ones ∧
      network.size.1 = ones := by
  have ⟨address, ones, valid, fits, same⟩ := parseCIDR_networkOf parsed
  cases address with
  | zero => contradiction
  | v4 value =>
    refine ⟨⟨ones, Nat.lt_succ_of_le fits⟩, ⟨_, beBytes_length 4 value.toNat, same⟩, ?_⟩
    rw [same, networkOf_size _ ones valid fits]
  | v6 value zone => simp [same, networkOf] at short

/-- A network contains the addresses that have its leading bits. -/
theorem Prefix.contains_iff (made : Prefix network ones) (ip : IP) :
    network.contains ip = true ↔
      ∃ four, to4 ip = some four ∧ maskBytes four (leadingMask 4 ones) = network.ip := by
  obtain ⟨bytes, length, rfl⟩ := made
  have short : (maskBytes bytes (leadingMask 4 ones)).length = 4 := by simp [maskBytes, length]
  simp only [IPNet.contains, IPNet.numberAndMask, to4_four short, Option.getD_some, short,
    leadingMask_length, and_self, if_true, maskBytes_maskBytes,
    maskBytes_leadingMask ones ones le_rfl, Bool.and_eq_true, beq_iff_eq]
  cases found : to4 ip with
  | some four => simp [to4_length found, eq_comm]
  | none =>
    refine iff_of_false (fun both => ?_) (by rintro ⟨_, ⟨⟩, _⟩)
    cases found.symm.trans (to4_four both.1)

/-- Of two networks with a common address the longer lies within the other. -/
theorem Prefix.contains_iff_within (wide : Prefix other fewer) (narrow : Prefix network ones)
    (less : fewer ≤ ones) {ip : IP} (inside : network.contains ip = true) :
    other.contains ip = true ↔ other.contains network.ip = true := by
  have ⟨four, found, bits⟩ := (narrow.contains_iff ip).mp inside
  have short : network.ip.length = 4 := by simp [← bits, maskBytes, to4_length found]
  rw [wide.contains_iff, wide.contains_iff, found, to4_four short, ← bits]
  simp [maskBytes_maskBytes, maskBytes_leadingMask ones fewer less]

/-- Networks of one length with a common address are the same. -/
theorem Prefix.eq_of_contains (left : Prefix network ones) (right : Prefix other ones) {ip : IP}
    (inside : network.contains ip = true) (also : other.contains ip = true) : network = other := by
  have ⟨four, found, bits⟩ := (left.contains_iff ip).mp inside
  have ⟨_, again, others⟩ := (right.contains_iff ip).mp also
  cases found.symm.trans again
  obtain ⟨_, _, rfl⟩ := left
  obtain ⟨_, _, rfl⟩ := right
  exact congrArg (IPNet.mk · _) (bits.symm.trans others)

end Prefixes

theorem firstRoute_matches {routes : List SplitRoute} {ip : IP} {first : SplitRoute}
    (found : firstRoute routes ip = some first) :
    first ∈ routes ∧ first.cidr.contains ip = true :=
  ⟨mem_of_find?_eq_some found, (List.find?_eq_some_iff_append.mp found).1⟩

theorem exists_longest {routes : List SplitRoute} {ip : IP} {route : SplitRoute}
    (listed : route ∈ routes) (inside : route.cidr.contains ip = true) :
    ∃ longest, Longest routes ip longest := by
  have ⟨longest, ⟨member, contains⟩, most⟩ :=
    Set.exists_max_image {route | route ∈ routes ∧ route.cidr.contains ip = true}
      (fun route => route.cidr.size.1) (routes.finite_toSet.subset fun _ both => both.1)
      ⟨route, listed, inside⟩
  exact ⟨longest, member, contains, fun other listed inside => most other ⟨listed, inside⟩⟩

section Ordered

variable {routes : List SplitRoute}
  (four : ∀ route ∈ routes, ∃ ones : Fin 33, Prefix route.cidr ones ∧ route.cidr.size.1 = ones)

include four

/-- The first route with an address is the first that the longest of them lies within. -/
theorem firstRoute_eq_within {ip : IP} {narrow : SplitRoute} (longest : Longest routes ip narrow) :
    firstRoute routes ip = routes.find? narrow.within := by
  have ⟨listed, inside, most⟩ := longest
  have ⟨ones, made, size⟩ := four narrow listed
  rw [firstRoute, ← head?_filter, ← head?_filter]
  apply congrArg head?
  apply filter_congr
  intro wide member
  have ⟨fewer, wideMade, wideSize⟩ := four wide member
  have longer := most wide member
  rw [SplitRoute.within, Bool.eq_iff_iff, Bool.and_eq_true, decide_eq_true_iff]
  rw [wideSize, size] at longer ⊢
  constructor
  · intro contains
    have less := longer contains
    exact ⟨less, (wideMade.contains_iff_within made less inside).mp contains⟩
  · rintro ⟨less, contains⟩
    exact (wideMade.contains_iff_within made less inside).mpr contains

/-- Longest matches of one address are for one network. -/
theorem Longest.cidr_eq {ip : IP} {left right : SplitRoute} (first : Longest routes ip left)
    (second : Longest routes ip right) : left.cidr = right.cidr := by
  have ⟨ones, made, size⟩ := four left first.1
  have ⟨others, madeOther, sizeOther⟩ := four right second.1
  have above := first.2.2 right second.1 second.2.1
  have below := second.2.2 left first.1 first.2.1
  rw [size, sizeOther] at above below
  cases Fin.le_antisymm below above
  exact made.eq_of_contains madeOther first.2.1 second.2.1

end Ordered

/-- The action is that of a longest match for every address that is in a route, exactly if the
routes are well ordered. An address is a destination of the mesh exactly if it is in the mesh
network and its action is mesh or no route has it. -/
theorem routeMesh_mostSpecific_iff (meshNet : IPNet) (configured : List (GoString × GoString))
    (valid : ∀ pair ∈ configured, ∃ network, parseCIDR pair.1 = some network ∧
      network.mask.length = 4) :
    let routes := setSplitRoutes configured
    ((∀ ip, (∃ route ∈ routes, route.cidr.contains ip = true) →
        ∃ route, Longest routes ip route ∧ routeMesh meshNet routes ip = route.action) ↔
      WellOrdered routes) ∧
    ∀ ip, isMeshDestination meshNet routes ip = true ↔ meshNet.contains ip = true ∧
      (routeMesh meshNet routes ip = lit "mesh" ∨
        ∀ route ∈ routes, route.cidr.contains ip = false) := by
  intro routes
  have four : ∀ route ∈ routes, ∃ ones : Fin 33, Prefix route.cidr ones ∧
      route.cidr.size.1 = ones := by
    intro route listed
    have ⟨⟨cidr, action⟩, given, made⟩ := mem_filterMap.mp listed
    have ⟨network, parsed, short⟩ := valid _ given
    dsimp only at made parsed
    rw [parsed] at made
    cases made
    exact parseCIDR_prefix parsed short
  refine ⟨⟨?_, ?_⟩, ?_⟩
  · rintro right narrow ⟨ip, longest⟩ wide found
    have ⟨route, also, decided⟩ := right ip ⟨narrow, longest.1, longest.2.1⟩
    rw [routeMesh, firstRoute_eq_within four longest, found] at decided
    exact ⟨route, also.1, also.cidr_eq four longest, decided.symm⟩
  · rintro ordered ip ⟨route, listed, inside⟩
    have ⟨narrow, longest⟩ := exists_longest listed inside
    have same := firstRoute_eq_within four longest
    cases found : firstRoute routes ip with
    | none => exact absurd inside (List.find?_eq_none.mp found route listed)
    | some wide =>
      have ⟨route, listed, network, decided⟩ := ordered narrow ⟨ip, longest⟩ wide (same ▸ found)
      refine ⟨route, ⟨listed, ?_, ?_⟩, ?_⟩
      · rw [network]
        exact longest.2.1
      · rw [network]
        exact longest.2.2
      · rw [routeMesh, found, decided]
  · intro ip
    rw [isMeshDestination, routeMesh]
    cases found : firstRoute routes ip with
    | none => cases meshNet.contains ip <;> simp
    | some first =>
      have ⟨listed, inside⟩ := firstRoute_matches found
      have hit : ¬∀ route ∈ routes, route.cidr.contains ip = false := fun missed =>
        Bool.noConfusion (inside.symm.trans (missed first listed))
      cases meshNet.contains ip <;> simp [hit]

/-- Where the narrow route stands first, its addresses get its action. -/
theorem narrow_route_first :
    let routes := setSplitRoutes
      [(lit "10.7.1.0/24", lit "mesh"), (lit "10.7.0.0/16", lit "direct")]
    ∃ route, Longest routes [10, 7, 1, 5] route ∧
      routeMesh ⟨[10, 7, 0, 0], [255, 255, 0, 0]⟩ routes [10, 7, 1, 5] = route.action := by
  intro routes
  have first : ∀ narrow ∈ routes, routes.find? narrow.within = some narrow := by decide +kernel
  refine (routeMesh_mostSpecific_iff _ _ (by decide +kernel)).1.mpr ?_ _ (by decide +kernel)
  rintro narrow ⟨ip, longest⟩ wide found
  cases (first narrow longest.1).symm.trans found
  exact ⟨narrow, longest.1, rfl, rfl⟩

/-- The wide route stands before the narrow one and takes its addresses. -/
theorem wide_route_first :
    let routes := setSplitRoutes
      [(lit "10.7.0.0/16", lit "direct"), (lit "10.7.1.0/24", lit "mesh")]
    routeMesh ⟨[10, 7, 0, 0], [255, 255, 0, 0]⟩ routes [10, 7, 1, 5] = lit "direct" ∧
      ∀ route ∈ routes, Longest routes [10, 7, 1, 5] route → route.action ≠ lit "direct" := by
  unfold Longest
  decide +kernel

end Shuttle.Mesh
