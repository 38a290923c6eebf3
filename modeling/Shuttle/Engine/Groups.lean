import Shuttle.Go.Text
import Shuttle.Lib.DepthFirst

/-!
# Outbound groups

Groups name their members by tag, and members may be groups. `validateGroupDAG` looks for cycles of
references; nothing calls it. The second pass of `startInbounds` builds the groups in the order of
the configuration and looks a member up among what exists by then, so a group has to come after the
groups it refers to.
-/

namespace Shuttle.Groups

open Shuttle.Go Shuttle.Lib List

structure GroupConfig where
  tag : GoString
  outbounds : List GoString

/-! ## Validation -/

def references (groups : List GroupConfig) : GoMap GoString (List GoString) :=
  GoMap.ofList (groups.map fun group => (group.tag, group.outbounds))

variable (groups : GoMap GoString (List GoString))

/-- `validateGroupDAG` for an order of the map; none if the bound on the depth were too small. -/
def validateGroupDAG (order : List GoString) : Option (Except GoString Unit) :=
  let outcome := DepthFirst.dfsAll (fun node => (groups node).getD [])
    (fun tag => (groups tag).isSome) order.length order fun _ => .white
  outcome.map fun
    | .ok _ => .ok ()
    | .error (node, member) =>
      -- "%s → %s", with the arrow in UTF-8
      .error (lit "cycle detected: " ++ node ++ [0x20, 0xe2, 0x86, 0x92, 0x20] ++ member)

def References (tag member : GoString) : Prop :=
  DepthFirst.Edge (fun node => (groups node).getD []) (fun tag => (groups tag).isSome) tag member

/-! ## The second pass -/

/-- An outbound: one that was built before, or the group built at a position. -/
inductive Outbound where
  | single (tag : GoString)
  | group (index : Nat)

structure Pass where
  outbounds : GoMap GoString Outbound
  built : List (List Outbound)

/-- `outbound group %q: member %q not found`. -/
structure MemberNotFound where
  group : GoString
  member : GoString

def resolve (outbounds : GoMap GoString Outbound) (group : GoString) :
    List GoString → Except MemberNotFound (List Outbound)
  | [] => .ok []
  | tag :: tags =>
    match outbounds tag with
    | none => .error ⟨group, tag⟩
    | some outbound => (resolve outbounds group tags).map (outbound :: ·)

def buildGroups : List GroupConfig → Pass → Except MemberNotFound Pass
  | [], pass => .ok pass
  | group :: rest, pass =>
    match resolve pass.outbounds group.tag group.outbounds with
    | .error missing => .error missing
    | .ok members => buildGroups rest
        ⟨pass.outbounds.set group.tag (.group pass.built.length), pass.built ++ [members]⟩

/-- Before the pass: the builtin outbounds and those of the first pass. -/
def firstPass (tags : List GoString) : Pass :=
  ⟨GoMap.ofList (tags.map fun tag => (tag, .single tag)), []⟩

/-- The pass succeeds, and each group has as members, in order, the outbounds that its tags name. -/
def Built (groups : List GroupConfig) (pass : Pass) : Prop :=
  ∃ final, buildGroups groups pass = .ok final ∧
    ∀ (index : Nat) group, groups[index]? = some group →
      ∃ members, final.built[pass.built.length + index]? = some members ∧
        group.outbounds.map final.outbounds = members.map some

def Ordered : List GroupConfig → Prop
  | [] => True
  | group :: rest =>
    (∀ tag ∈ group.outbounds, tag ∉ (group :: rest).map (·.tag)) ∧ Ordered rest

/-- Every member names an outbound that is there or a group of the list. -/
def Existing (groups : List GroupConfig) (pass : Pass) : Prop :=
  ∀ group ∈ groups, ∀ tag ∈ group.outbounds,
    (pass.outbounds tag).isSome = true ∨ tag ∈ groups.map (·.tag)

/-- The groups that the map names have been built. -/
def Fresh (pass : Pass) : Prop :=
  ∀ tag index, pass.outbounds tag = some (.group index) → index < pass.built.length

variable {groups rest : List GroupConfig} {group : GroupConfig} {pass final : Pass}
  {members : List Outbound}

theorem resolve_eq_ok_iff {outbounds : GoMap GoString Outbound} {name : GoString}
    {tags : List GoString} :
    resolve outbounds name tags = .ok members ↔ tags.map outbounds = members.map some := by
  induction tags generalizing members with
  | nil => cases members <;> simp [resolve]
  | cons tag tags ih =>
    cases found : outbounds tag with
    | none => cases members <;> simp [resolve, found]
    | some outbound =>
      cases tail : resolve outbounds name tags <;> cases members <;>
        simp [resolve, found, tail, Except.map, ← ih]

def Pass.add (pass : Pass) (group : GroupConfig) (members : List Outbound) : Pass :=
  ⟨pass.outbounds.set group.tag (.group pass.built.length), pass.built ++ [members]⟩

theorem buildGroups_cons :
    buildGroups (group :: rest) pass = .ok final ↔
      ∃ members, group.outbounds.map pass.outbounds = members.map some ∧
        buildGroups rest (pass.add group members) = .ok final := by
  rw [buildGroups]
  cases found : resolve pass.outbounds group.tag group.outbounds with
  | error missing =>
    refine iff_of_false nofun fun ⟨members, same, _⟩ => ?_
    rw [← resolve_eq_ok_iff, found] at same
    cases same
  | ok members =>
    refine ⟨fun ran => ⟨members, resolve_eq_ok_iff.mp found, ran⟩, fun ⟨others, same, ran⟩ => ?_⟩
    rw [← resolve_eq_ok_iff, found] at same
    cases same
    exact ran

theorem Fresh.add (fresh : Fresh pass) : Fresh (pass.add group members) := by
  intro tag index found
  rcases GoMap.set_eq_some_iff.mp found with ⟨_, same⟩ | ⟨_, old⟩
  · cases same
    simp [Pass.add]
  · have earlier := fresh tag index old
    simp only [Pass.add, length_append]
    omega

theorem buildGroups_built (ran : buildGroups groups pass = .ok final) :
    ∃ more, final.built = pass.built ++ more := by
  induction groups generalizing pass with
  | nil => exact ⟨[], by cases ran; simp⟩
  | cons group rest ih =>
    have ⟨members, _, later⟩ := buildGroups_cons.mp ran
    have ⟨more, built⟩ := ih later
    exact ⟨members :: more, by simp [built, Pass.add]⟩

theorem buildGroups_outbounds (ran : buildGroups groups pass = .ok final) (tag : GoString) :
    (tag ∉ groups.map (·.tag) ∧ final.outbounds tag = pass.outbounds tag) ∨
      (tag ∈ groups.map (·.tag) ∧
        ∃ index, final.outbounds tag = some (.group index) ∧ pass.built.length ≤ index) := by
  induction groups generalizing pass with
  | nil => exact .inl ⟨by simp, by cases ran; rfl⟩
  | cons group rest ih =>
    have ⟨members, _, later⟩ := buildGroups_cons.mp ran
    rcases ih later with ⟨unlisted, same⟩ | ⟨listed, index, found, above⟩
    · by_cases own : tag = group.tag
      · subst own
        exact .inr ⟨by simp, _, by simp [same, Pass.add, GoMap.set], le_refl _⟩
      · refine .inl ⟨by simp_all, ?_⟩
        simp [same, Pass.add, GoMap.set, own]
    · simp only [Pass.add, length_append] at above
      exact .inr ⟨mem_cons_of_mem _ listed, index, found, by omega⟩

theorem kept_iff (fresh : Fresh pass) (ran : buildGroups groups pass = .ok final) {tag : GoString} :
    final.outbounds tag = pass.outbounds tag ↔ tag ∉ groups.map (·.tag) := by
  rcases buildGroups_outbounds ran tag with ⟨unlisted, same⟩ | ⟨listed, index, found, above⟩
  · exact iff_of_true same unlisted
  · refine iff_of_false (fun same => ?_) (not_not_intro listed)
    have old := fresh tag index (same ▸ found)
    omega

theorem built_cons_iff (fresh : Fresh pass) :
    Built (group :: rest) pass ↔
      ∃ members, group.outbounds.map pass.outbounds = members.map some ∧
        (∀ tag ∈ group.outbounds, tag ∉ (group :: rest).map (·.tag)) ∧
        Built rest (pass.add group members) := by
  have own {members : List Outbound} {final : Pass}
      (later : buildGroups rest (pass.add group members) = .ok final) :
      final.built[pass.built.length]? = some members := by
    have ⟨more, built⟩ := buildGroups_built later
    simp [built, Pass.add]
  have position (members : List Outbound) (index : Nat) :
      (pass.add group members).built.length + index = pass.built.length + (index + 1) := by
    simp only [Pass.add, length_append, length_singleton]
    omega
  constructor
  · intro ⟨final, ran, each⟩
    have ⟨members, found, later⟩ := buildGroups_cons.mp ran
    -- a tag that this or a later group takes would name another outbound in the end
    refine ⟨members, found, fun tag listed => (kept_iff fresh ran).mp ?_, final, later, ?_⟩
    · have ⟨others, built, named⟩ := each 0 group rfl
      cases (own later).symm.trans built
      exact map_inj_left.mp (named.trans found.symm) tag listed
    · exact fun index other listed => position members index ▸ each (index + 1) other listed
  · intro ⟨members, found, kept, final, later, each⟩
    have ran := buildGroups_cons.mpr ⟨members, found, later⟩
    refine ⟨final, ran, fun index other listed => ?_⟩
    cases index with
    | zero =>
      cases listed
      refine ⟨members, own later, Eq.trans ?_ found⟩
      exact map_congr_left fun tag listed => (kept_iff fresh ran).mpr (kept tag listed)
    | succ index => exact position members index ▸ each index other listed

theorem Existing.add (existing : Existing (group :: rest) pass) :
    Existing rest (pass.add group members) := by
  intro other listed tag member
  by_cases own : tag = group.tag
  · exact .inl (by simp [Pass.add, GoMap.set, own])
  · have found := existing other (mem_cons_of_mem _ listed) tag member
    simpa [Pass.add, GoMap.set, own] using found

theorem built_iff_ordered (fresh : Fresh pass) (existing : Existing groups pass) :
    Built groups pass ↔ Ordered groups := by
  induction groups generalizing pass with
  | nil => exact iff_of_true ⟨pass, rfl, by simp⟩ trivial
  | cons group rest ih =>
    rw [built_cons_iff fresh]
    constructor
    · exact fun ⟨members, _, kept, built⟩ => ⟨kept, (ih fresh.add existing.add).mp built⟩
    · intro ⟨kept, ordered⟩
      have found : group.outbounds.map pass.outbounds =
          (group.outbounds.filterMap pass.outbounds).map some := by
        rw [map_filterMap, ← filterMap_eq_map]
        refine filterMap_congr fun tag member => ?_
        have named := existing group mem_cons_self tag member
        have ⟨outbound, known⟩ :=
          Option.isSome_iff_exists.mp (named.resolve_right (kept tag member))
        simp [known]
      exact ⟨_, found, kept, (ih fresh.add existing.add).mpr ordered⟩

theorem isSome_ofList {υ : Type} {pairs : List (GoString × υ)} {tag : GoString} :
    (GoMap.ofList pairs tag).isSome = true ↔ tag ∈ pairs.map Prod.fst := by
  rw [Option.isSome_iff_exists]
  constructor
  · exact fun ⟨value, found⟩ => mem_map.mpr ⟨_, GoMap.ofList_mem found, rfl⟩
  · intro listed
    have ⟨pair, member, same⟩ := mem_map.mp listed
    have ⟨value, _, found⟩ := GoMap.setAll_listed .empty member
    exact same ▸ ⟨value, found⟩

theorem validateGroupDAG_ok_iff {groups : GoMap GoString (List GoString)} {order : List GoString}
    (keys : ∀ tag, tag ∈ order ↔ (groups tag).isSome = true) :
    validateGroupDAG groups order = some (.ok ()) ↔
      ∀ tag, ¬Relation.TransGen (References groups) tag tag := by
  refine Iff.trans ?_ (DepthFirst.dfsAll_ok_iff keys).2
  rw [validateGroupDAG]
  cases DepthFirst.dfsAll (fun node => (groups node).getD []) (fun tag => (groups tag).isSome)
      order.length order fun _ => .white with
  | none => simp
  | some result => cases result <;> simp

def forwardGroups : List GroupConfig :=
  [⟨lit "outer", [lit "inner"]⟩, ⟨lit "inner", [lit "direct"]⟩]

end Shuttle.Groups
