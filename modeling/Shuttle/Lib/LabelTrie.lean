import Mathlib.Data.List.Infix
import Mathlib.Data.Set.Insert

/-!
# Tries over label paths

A trie node holds an optional value and a table of children by label. A walk along a path remembers
the last value it passed; one label can be reserved as a wildcard, whose child is consulted before
each step. Where the wildcard ends no stored path, the walk returns the value of the longest
beginning of the path that has one.
-/

namespace Shuttle.Lib

open List Function

/-- A trie node: its value, if it ends a path, and its children by label. -/
inductive LabelTrie (κ υ : Type) where
  | node (value : Option υ) (children : List (κ × LabelTrie κ υ))

namespace LabelTrie

variable {κ υ : Type}

def empty : LabelTrie κ υ := node none []

def value : LabelTrie κ υ → Option υ
  | node value _ => value

def children : LabelTrie κ υ → List (κ × LabelTrie κ υ)
  | node _ children => children

/-! ## Beginnings of a path -/

/-- The paths whose values a walk can pass, in the order it passes them. -/
def stations (wildcard : κ) : List κ → List (List κ)
  | [] => []
  | label :: path => [wildcard] :: [label] :: (stations wildcard path).map (label :: ·)

/-- The value is that of the longest beginning of a path that holds one. -/
def Deepest (stored : List κ → Option υ) (path : List κ) (found : υ) : Prop :=
  ∃ front, front <+: path ∧ stored front = some found ∧
    ∀ other, other <+: path → (stored other).isSome → other.length ≤ front.length

theorem stations_concat (wildcard label : κ) (path : List κ) :
    stations wildcard (path ++ [label]) =
      stations wildcard path ++ [path ++ [wildcard], path ++ [label]] := by
  induction path with
  | nil => rfl
  | cons first path ih =>
    rw [cons_append, stations, ih, map_append]
    rfl

theorem mem_stations_iff {wildcard : κ} {path station : List κ} :
    station ∈ stations wildcard path ↔
      (station ≠ [] ∧ station <+: path) ∨
        ∃ front, station = front ++ [wildcard] ∧ front <+: path ∧ front ≠ path := by
  induction path using List.reverseRecOn with
  | nil =>
    refine iff_of_false nofun ?_
    rintro (⟨some, short⟩ | ⟨front, _, short, other⟩)
    · exact some (prefix_nil.mp short)
    · exact other (prefix_nil.mp short)
  | append_singleton path label ih =>
    have shorter : ∀ front, front <+: path ++ [label] ∧ front ≠ path ++ [label] ↔
        front <+: path := by
      intro front
      rw [prefix_concat_iff]
      constructor
      · rintro ⟨whole | short, other⟩
        · exact absurd whole other
        · exact short
      · intro short
        refine ⟨.inr short, ?_⟩
        intro whole
        have bound := short.length_le
        rw [whole, length_append, length_singleton] at bound
        omega
    rw [stations_concat, mem_append, ih, mem_cons, mem_singleton]
    constructor
    · rintro ((⟨some, short⟩ | ⟨front, starred, short, _⟩) | starred | whole)
      · exact .inl ⟨some, short.trans (prefix_append ..)⟩
      · exact .inr ⟨front, starred, (shorter front).mpr short⟩
      · exact .inr ⟨path, starred, (shorter path).mpr prefix_rfl⟩
      · refine .inl ⟨?_, whole ▸ prefix_rfl⟩
        rw [whole]
        exact append_ne_nil_of_right_ne_nil path (cons_ne_nil label [])
    · rintro (⟨some, short⟩ | ⟨front, starred, short⟩)
      · rcases prefix_concat_iff.mp short with whole | before
        · exact .inr (.inr whole)
        · exact .inl (.inl ⟨some, before⟩)
      · have inside := (shorter front).mp short
        by_cases all : front = path
        · rw [all] at starred
          exact .inr (.inl starred)
        · exact .inl (.inr ⟨front, starred, inside, all⟩)

section Longest

variable {wildcard : κ} {stored : List κ → Option υ}

theorem deepest_concat {path : List κ} {label : κ} {found : υ} :
    Deepest stored (path ++ [label]) found ↔ stored (path ++ [label]) = some found ∨
      stored (path ++ [label]) = none ∧ Deepest stored path found := by
  constructor
  · rintro ⟨front, short, held, longest⟩
    rcases prefix_concat_iff.mp short with rfl | before
    · exact .inl held
    · refine .inr ⟨?_, front, before, held,
        fun other within => longest other (within.trans (prefix_append ..))⟩
      by_contra here
      have most := longest _ prefix_rfl (Option.isSome_iff_ne_none.mpr here)
      have less := before.length_le
      rw [length_append, length_singleton] at most
      omega
  · rintro (here | ⟨missing, front, short, held, longest⟩)
    · exact ⟨_, prefix_rfl, here, fun other within _ => within.length_le⟩
    · refine ⟨front, short.trans (prefix_append ..), held, fun other within holds => ?_⟩
      rcases prefix_concat_iff.mp within with rfl | before
      · rw [missing] at holds
        cases holds
      · exact longest other before holds

theorem findSome_stations_iff (unused : ∀ front, stored (front ++ [wildcard]) = none)
    (rootless : stored [] = none) (path : List κ) (found : υ) :
    (stations wildcard path).reverse.findSome? stored = some found ↔ Deepest stored path found := by
  -- The longest station is passed last, so the induction takes labels off the end of the path.
  induction path using List.reverseRecOn with
  | nil =>
    constructor
    · nofun
    · rintro ⟨front, short, held, _⟩
      rw [prefix_nil.mp short, rootless] at held
      cases held
  | append_singleton path label ih =>
    rw [stations_concat, reverse_append, reverse_cons, reverse_singleton,
      singleton_append, cons_append, singleton_append, List.findSome?_cons, deepest_concat]
    cases stored (path ++ [label]) with
    | some value =>
      exact ⟨.inl, fun deepest => deepest.resolve_right fun missing => nomatch missing.1⟩
    | none =>
      rw [List.findSome?_cons, unused, ih]
      exact ⟨fun deepest => .inr ⟨rfl, deepest⟩, fun deepest => (deepest.resolve_left nofun).2⟩

theorem deepest_of_mem {path front : List κ} (short : front <+: path)
    (holds : (stored front).isSome) : ∃ found, Deepest stored path found := by
  induction path using List.reverseRecOn with
  | nil =>
    have ⟨value, held⟩ := Option.isSome_iff_exists.mp holds
    refine ⟨value, front, short, held, ?_⟩
    intro other within _
    rw [prefix_nil.mp within]
    exact Nat.zero_le _
  | append_singleton path label ih =>
    cases here : stored (path ++ [label]) with
    | some value => exact ⟨value, deepest_concat.mpr (.inl here)⟩
    | none =>
      have earlier : front <+: path := by
        rcases prefix_concat_iff.mp short with rfl | before
        · rw [here] at holds
          cases holds
        · exact before
      have ⟨value, deepest⟩ := ih earlier
      exact ⟨value, deepest_concat.mpr (.inr ⟨here, deepest⟩)⟩

end Longest

variable {children : List (κ × LabelTrie κ υ)} {label : κ} {trie : LabelTrie κ υ}

/-! ## Nodes -/

variable [DecidableEq κ]

def childOf (label : κ) : List (κ × LabelTrie κ υ) → Option (LabelTrie κ υ)
  | [] => none
  | (other, trie) :: rest => if other = label then some trie else childOf label rest

def putChild (label : κ) (trie : LabelTrie κ υ) :
    List (κ × LabelTrie κ υ) → List (κ × LabelTrie κ υ)
  | [] => [(label, trie)]
  | (other, child) :: rest =>
    if other = label then (label, trie) :: rest else (other, child) :: putChild label trie rest

def child (trie : LabelTrie κ υ) (label : κ) : Option (LabelTrie κ υ) :=
  childOf label trie.children

def valueAt (trie : LabelTrie κ υ) : List κ → Option υ
  | [] => trie.value
  | label :: path => (trie.child label).bind fun next => next.valueAt path

def insert (trie : LabelTrie κ υ) (stored : υ) : List κ → LabelTrie κ υ
  | [] => node (some stored) trie.children
  | label :: path =>
    node trie.value
      (putChild label (((trie.child label).getD empty).insert stored path) trie.children)

def erase (trie : LabelTrie κ υ) : List κ → LabelTrie κ υ
  | [] => node none trie.children
  | label :: path =>
    match trie.child label with
    | none => trie
    | some next => node trie.value (putChild label (next.erase path) trie.children)

def keys (trie : LabelTrie κ υ) : Set (List κ) := {path | (trie.valueAt path).isSome}

/-- Walk along a path and return the last value passed, or `found` when there is none. -/
def walk (wildcard : κ) (trie : LabelTrie κ υ) (found : Option υ) : List κ → Option υ
  | [] => found
  | label :: path =>
    let found := ((trie.child wildcard).bind value).or found
    match trie.child label with
    | none => found
    | some next => next.walk wildcard (next.value.or found) path

theorem childOf_putChild (label other : κ) (trie : LabelTrie κ υ)
    (children : List (κ × LabelTrie κ υ)) :
    childOf other (putChild label trie children) =
      if other = label then some trie else childOf other children := by
  induction children with
  | nil => simp [putChild, childOf, eq_comm]
  | cons first rest ih =>
    have ⟨name, child⟩ := first
    by_cases taken : name = label
    · subst taken
      by_cases same : other = name
      · simp [putChild, childOf, same]
      · simp [putChild, childOf, same, Ne.symm same]
    · by_cases same : name = other
      · subst same
        simp [putChild, childOf, taken]
      · simp [putChild, childOf, taken, same, ih]

@[simp]
theorem valueAt_empty (path : List κ) : (empty : LabelTrie κ υ).valueAt path = none := by
  cases path with
  | nil | cons label path => rfl

theorem valueAt_getD_empty (found : Option (LabelTrie κ υ)) (path : List κ) :
    (found.getD empty).valueAt path = found.bind fun next => next.valueAt path := by
  cases found with
  | none => exact valueAt_empty path
  | some next => rfl

theorem valueAt_putChild (trie next : LabelTrie κ υ) (label step : κ) (probe : List κ) :
    (node trie.value (putChild label next trie.children)).valueAt (step :: probe) =
      if step = label then next.valueAt probe else trie.valueAt (step :: probe) := by
  have entered : (node trie.value (putChild label next trie.children)).child step =
      if step = label then some next else trie.child step := childOf_putChild ..
  rw [valueAt, entered]
  split <;> rfl

theorem valueAt_putChild_update {trie child : LabelTrie κ υ} {label : κ} {path : List κ}
    {stored : Option υ} (inner : child.valueAt =
      Function.update (fun probe => trie.valueAt (label :: probe)) path stored) :
    (node trie.value (putChild label child trie.children)).valueAt =
      Function.update trie.valueAt (label :: path) stored := by
  funext probe
  cases probe with
  | nil =>
    rfl
  | cons step probe =>
    rw [valueAt_putChild]
    by_cases same : step = label
    · subst same
      rw [if_pos rfl, inner]
      by_cases here : probe = path
      · rw [here, update_self, update_self]
      · rw [update_of_ne here, update_of_ne (by simpa using here)]
    · rw [if_neg same, update_of_ne (fun equal => same (List.cons.inj equal).1)]

theorem valueAt_insert (trie : LabelTrie κ υ) (stored : υ) (path : List κ) :
    (trie.insert stored path).valueAt = Function.update trie.valueAt path (some stored) := by
  induction path generalizing trie with
  | nil =>
    funext probe
    cases probe with
    | nil => simp [insert, valueAt, value]
    | cons label probe =>
      rfl
  | cons label path ih =>
    refine valueAt_putChild_update ((ih _).trans ?_)
    congr 1
    funext probe
    rw [valueAt_getD_empty]
    rfl

theorem valueAt_erase (trie : LabelTrie κ υ) (path : List κ) :
    (trie.erase path).valueAt = Function.update trie.valueAt path none := by
  induction path generalizing trie with
  | nil =>
    funext probe
    cases probe with
    | nil => simp [erase, valueAt, value]
    | cons label probe =>
      rfl
  | cons label path ih =>
    rw [erase]
    cases entered : trie.child label with
    | none =>
      -- The path leaves the trie here, so it holds no value and nothing changes.
      have missing : trie.valueAt (label :: path) = none := by
        rw [valueAt, entered]
        rfl
      rw [← missing, update_eq_self]
    | some next =>
      refine valueAt_putChild_update ((ih next).trans ?_)
      congr 1
      funext probe
      rw [valueAt, entered]
      rfl

theorem keys_empty : (empty : LabelTrie κ υ).keys = ∅ := by
  ext path
  simp [keys]

theorem keys_insert (trie : LabelTrie κ υ) (stored : υ) (path : List κ) :
    (trie.insert stored path).keys = Insert.insert path trie.keys := by
  ext probe
  rw [keys, valueAt_insert]
  by_cases same : probe = path
  · simp [same]
  · simp [same, keys]

theorem keys_erase (trie : LabelTrie κ υ) (path : List κ) :
    (trie.erase path).keys = trie.keys \ {path} := by
  ext probe
  rw [keys, valueAt_erase, Set.mem_sdiff]
  by_cases same : probe = path
  · simp [same]
  · simp [same, keys]

theorem walk_eq_findSome (wildcard : κ) (trie : LabelTrie κ υ) (found : Option υ) (path : List κ) :
    trie.walk wildcard found path =
      ((stations wildcard path).reverse.findSome? trie.valueAt).or found := by
  induction path generalizing trie found with
  | nil => rfl
  | cons label path ih =>
    have nearest : [[label], [wildcard]].findSome? trie.valueAt =
        ((trie.child label).bind value).or ((trie.child wildcard).bind value) := by
      have single : ∀ step, trie.valueAt [step] = (trie.child step).bind value := fun _ => rfl
      rw [List.findSome?_cons, List.findSome?_singleton, single]
      cases (trie.child label).bind value with
      | none | some stored => rfl
    have deeper : (stations wildcard path).reverse.findSome? (trie.valueAt ∘ (label :: ·)) =
        (trie.child label).bind fun next =>
          (stations wildcard path).reverse.findSome? next.valueAt := by
      cases entered : trie.child label with
      | none =>
        rw [Option.bind_none, List.findSome?_eq_none_iff]
        intro probe _
        simp [valueAt, entered]
      | some next =>
        congr 1
        funext probe
        simp [valueAt, entered]
    rw [stations, reverse_cons, reverse_cons, append_assoc, ← map_reverse,
      List.findSome?_append, List.findSome?_map, deeper, singleton_append, nearest, walk]
    cases trie.child label with
    | none => rfl
    | some next =>
      rw [Option.or_assoc, Option.or_assoc]
      exact ih next _

end LabelTrie

end Shuttle.Lib
