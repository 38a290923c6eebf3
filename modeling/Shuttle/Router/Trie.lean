import Mathlib.Data.Set.Card
import Shuttle.Go.Names
import Shuttle.Lib.LabelTrie

/-!
# The domain trie

`router/trie.go` keeps actions by domain in a trie over the labels of the reversed name, without a
leading "+.", one trailing dot and capitals. A look-up keeps the last action on its way down; a
child named "+" is consulted before each step. The specification keeps no tree: a key is live when
the last call about it stored an action. A node's `isEnd` and `value` are one optional value here.
-/

namespace Shuttle.Router

open Shuttle.Go Shuttle.Lib List Function LabelTrie

/-- The label that `Lookup` consults at every level. -/
def wildcardLabel : GoString := lit "+"

/-- The labels of a normalised name, top label first. -/
def reverseDomain (tables : UnicodeTables) (domain : GoString) : List GoString :=
  let domain := trimLead domain (lit "+.")
  let domain := trimTail domain (lit ".")
  let domain := toLower tables domain
  (splitByte dot domain).reverse

structure DomainTrie where
  root : LabelTrie GoString GoString
  /-- Entries counted by `Insert`. -/
  size : Nat

namespace DomainTrie

variable (tables : UnicodeTables)

def new : DomainTrie := ⟨empty, 0⟩

/-- Store an action under a domain; a new entry is counted. -/
def insert (trie : DomainTrie) (domain action : GoString) : DomainTrie :=
  let parts := reverseDomain tables domain
  { root := trie.root.insert action parts
    size := if (trie.root.valueAt parts).isNone then trie.size + 1 else trie.size }

variable (trie : DomainTrie)

variable (pairs : List (GoString × GoString)) (domain : GoString)

/-- Remove the action of a domain, and whether there was one; the nodes stay. -/
def delete : Bool × DomainTrie :=
  let parts := reverseDomain tables domain
  match trie.root.valueAt parts with
  | none => (false, trie)
  | some _ => (true, { root := trie.root.erase parts, size := trie.size - 1 })

def lookup : Option GoString :=
  trie.root.walk wildcardLabel none (reverseDomain tables domain)

def insertAll : DomainTrie :=
  pairs.foldl (fun trie pair => trie.insert tables pair.1 pair.2) trie

def paths : List (List GoString × GoString) :=
  pairs.map fun pair => (reverseDomain tables pair.1, pair.2)

theorem valueAt_insert (domain action : GoString) :
    (trie.insert tables domain action).root.valueAt =
      GoMap.set trie.root.valueAt (reverseDomain tables domain) action :=
  LabelTrie.valueAt_insert ..

theorem valueAt_insertAll :
    (trie.insertAll tables pairs).root.valueAt =
      GoMap.setAll trie.root.valueAt (paths tables pairs) := by
  induction pairs generalizing trie with
  | nil => rfl
  | cons pair rest ih =>
    have step := valueAt_insert tables trie pair.1 pair.2
    have later := ih (trie.insert tables pair.1 pair.2)
    rw [step] at later
    exact later

theorem valueAt_new : new.root.valueAt = GoMap.empty := by
  funext path
  exact valueAt_empty path

theorem lookup_eq :
    trie.lookup tables domain =
      (stations wildcardLabel (reverseDomain tables domain)).reverse.findSome?
        trie.root.valueAt := by
  unfold lookup
  rw [walk_eq_findSome, Option.or_none]

theorem lookup_isSome_iff :
    (trie.lookup tables domain).isSome ↔
      ∃ path ∈ stations wildcardLabel (reverseDomain tables domain),
        (trie.root.valueAt path).isSome := by
  rw [lookup_eq, List.findSome?_isSome_iff]
  constructor
  · rintro ⟨path, listed, held⟩
    exact ⟨path, mem_reverse.mp listed, held⟩
  · rintro ⟨path, listed, held⟩
    exact ⟨path, mem_reverse.mpr listed, held⟩

theorem reverseDomain_ne_nil : reverseDomain tables domain ≠ [] := by
  intro none
  exact splitByte_ne_nil _ _ (reverse_eq_nil_iff.mp none)

end DomainTrie

/-! ## Histories of calls -/

inductive TrieCall where
  | insert (domain action : GoString)
  | delete (domain : GoString)

namespace TrieCall

def domain : TrieCall → GoString
  | insert domain _ => domain
  | delete domain => domain

def stored : TrieCall → Option GoString
  | insert _ action => some action
  | delete _ => none

end TrieCall

section History

variable (tables : UnicodeTables)

/-- The labels of a normalised name in the order of the name. -/
def domainLabels (domain : GoString) : List GoString := (reverseDomain tables domain).reverse

theorem domainLabels_lowered {tables : UnicodeTables} (runewise : tables.Runewise)
    (domain : GoString) : domainLabels tables domain =
      splitByte dot (trimTail (trimLead (toLower tables domain) (lit "+.")) (lit ".")) := by
  rw [runewise.trimLead_toLower, runewise.trimTail_toLower]
  exact reverse_reverse _

/-- An entry is found for a name: its labels end those of the name, or they are a "+" in front of
fewer labels that end them. -/
def Reaches (entry domain : GoString) : Prop :=
  domainLabels tables entry <:+ domainLabels tables domain ∨
    ∃ key, domainLabels tables entry = wildcardLabel :: key ∧
      key <:+ domainLabels tables domain ∧ key ≠ domainLabels tables domain

theorem mem_stations_reverseDomain {entry domain : GoString} :
    reverseDomain tables entry ∈
        stations wildcardLabel (reverseDomain tables domain) ↔
      Reaches tables entry domain := by
  rw [mem_stations_iff, Reaches, domainLabels, domainLabels, reverse_suffix]
  refine or_congr ?_ ?_
  · exact and_iff_right (DomainTrie.reverseDomain_ne_nil tables entry)
  · constructor
    · rintro ⟨front, starred, short, other⟩
      refine ⟨front.reverse, ?_, reverse_suffix.mpr short, ?_⟩
      · rw [starred, reverse_append]
        rfl
      · intro same
        exact other (reverse_injective same)
    · rintro ⟨key, starred, short, other⟩
      refine ⟨key.reverse, ?_, ?_, ?_⟩
      · rw [← reverse_reverse (reverseDomain tables entry), starred, reverse_cons]
      · rw [← reverse_suffix, reverse_reverse]
        exact short
      · intro same
        rw [← same, reverse_reverse] at other
        exact other rfl

theorem DomainTrie.lookup_insertAll_isSome (pairs : List (GoString × GoString))
    (domain : GoString) :
    ((DomainTrie.new.insertAll tables pairs).lookup tables domain).isSome ↔
      ∃ pair ∈ pairs, Reaches tables pair.1 domain := by
  have values : (DomainTrie.new.insertAll tables pairs).root.valueAt =
      GoMap.ofList (DomainTrie.paths tables pairs) := by
    rw [DomainTrie.valueAt_insertAll, DomainTrie.valueAt_new]
    rfl
  rw [DomainTrie.lookup_isSome_iff, values]
  constructor
  · rintro ⟨path, station, held⟩
    have ⟨action, stored⟩ := Option.isSome_iff_exists.mp held
    have ⟨pair, listed, same⟩ := mem_map.mp (GoMap.ofList_mem stored)
    refine ⟨pair, listed, (mem_stations_reverseDomain tables).mp ?_⟩
    rw [(Prod.mk.inj same).1]
    exact station
  · rintro ⟨pair, listed, found⟩
    have stored : (reverseDomain tables pair.1, pair.2) ∈ DomainTrie.paths tables pairs :=
      mem_map.mpr ⟨pair, listed, rfl⟩
    have ⟨action, _, held⟩ := GoMap.setAll_listed .empty stored
    exact ⟨reverseDomain tables pair.1, (mem_stations_reverseDomain tables).mpr found,
      Option.isSome_iff_exists.mpr ⟨action, held⟩⟩

def DomainTrie.apply (trie : DomainTrie) : TrieCall → DomainTrie
  | .insert domain action => trie.insert tables domain action
  | .delete domain => (trie.delete tables domain).2

variable (calls : List TrieCall)

def DomainTrie.after : DomainTrie :=
  calls.foldl (DomainTrie.apply tables) DomainTrie.new

/-- The action that the last call about a key stored, unless that call deleted the key. -/
def liveAction (key : List GoString) : Option GoString :=
  (calls.reverse.find? fun call => domainLabels tables call.domain == key).bind TrieCall.stored

theorem liveAction_concat (call : TrieCall) :
    liveAction tables (calls ++ [call]) =
      Function.update (liveAction tables calls) (domainLabels tables call.domain) call.stored := by
  funext key
  rw [liveAction, reverse_append, reverse_singleton, singleton_append]
  by_cases same : key = domainLabels tables call.domain
  · rw [same, update_self, List.find?_cons_of_pos (by simp)]
    rfl
  · rw [update_of_ne same, List.find?_cons_of_neg (by simpa using Ne.symm same)]
    rfl

variable {calls : List TrieCall} {trie : DomainTrie}

theorem liveAction_mem {key : List GoString} (live : (liveAction tables calls key).isSome) :
    ∃ call ∈ calls, domainLabels tables call.domain = key := by
  cases found : calls.reverse.find? fun call => domainLabels tables call.domain == key with
  | none =>
    rw [liveAction, found] at live
    cases live
  | some call =>
    refine ⟨call, mem_reverse.mp (mem_of_find?_eq_some found), ?_⟩
    simpa using List.find?_some found

structure DomainTrie.Holds (trie : DomainTrie) (calls : List TrieCall) : Prop where
  values : ∀ path, trie.root.valueAt path = liveAction tables calls path.reverse
  finite : trie.root.keys.Finite
  size : trie.size = trie.root.keys.ncard

variable {tables}

theorem DomainTrie.holds_new : DomainTrie.new.Holds tables [] where
  values := valueAt_empty
  finite := by
    rw [new, keys_empty]
    exact Set.finite_empty
  size := by
    rw [new, keys_empty, Set.ncard_empty]

theorem DomainTrie.Holds.update
    (holds : trie.Holds tables calls) (call : TrieCall) {root : LabelTrie GoString GoString}
    (updated : root.valueAt =
      Function.update trie.root.valueAt (reverseDomain tables call.domain) call.stored)
    (path : List GoString) :
    root.valueAt path = liveAction tables (calls ++ [call]) path.reverse := by
  rw [updated, liveAction_concat]
  by_cases same : path = reverseDomain tables call.domain
  · rw [same, domainLabels, update_self, update_self]
  have apart : path.reverse ≠ domainLabels tables call.domain := by
    intro equal
    exact same (reverse_injective equal)
  rw [update_of_ne same, update_of_ne apart, holds.values]

theorem DomainTrie.Holds.insert (holds : trie.Holds tables calls) (domain action : GoString) :
    (trie.insert tables domain action).Holds tables (calls ++ [.insert domain action]) where
  values := holds.update (.insert domain action) (valueAt_insert ..)
  finite := by
    rw [DomainTrie.insert, keys_insert]
    exact holds.finite.insert _
  size := by
    have member : reverseDomain tables domain ∈ trie.root.keys ↔
        (trie.root.valueAt (reverseDomain tables domain)).isSome := Iff.rfl
    rw [DomainTrie.insert, keys_insert]
    cases present : trie.root.valueAt (reverseDomain tables domain) with
    | none =>
      have absent : reverseDomain tables domain ∉ trie.root.keys := by
        rw [member, present]
        exact Bool.false_ne_true
      rw [Set.ncard_insert_of_notMem absent holds.finite, ← holds.size]
      rfl
    | some old =>
      have listed : reverseDomain tables domain ∈ trie.root.keys := by
        rw [member, present]
        rfl
      rw [Set.insert_eq_of_mem listed, ← holds.size]
      rfl

theorem DomainTrie.Holds.delete (holds : trie.Holds tables calls) (domain : GoString) :
    (trie.delete tables domain).2.Holds tables (calls ++ [.delete domain]) := by
  rw [DomainTrie.delete]
  cases present : trie.root.valueAt (reverseDomain tables domain) with
  | none =>
    refine ⟨holds.update (.delete domain) ?_, holds.finite, holds.size⟩
    have unchanged := update_eq_self (reverseDomain tables domain) trie.root.valueAt
    rw [present] at unchanged
    exact unchanged.symm
  | some old =>
    have listed : reverseDomain tables domain ∈ trie.root.keys := by
      rw [LabelTrie.keys, Set.mem_ofPred_eq, present]
      rfl
    refine ⟨holds.update (.delete domain) (valueAt_erase ..), ?_, ?_⟩
    · rw [keys_erase]
      exact holds.finite.sdiff
    · rw [keys_erase, Set.ncard_sdiff_singleton_of_mem listed, ← holds.size]

theorem DomainTrie.holds_after (calls : List TrieCall) :
    (DomainTrie.after tables calls).Holds tables calls := by
  induction calls using List.reverseRecOn with
  | nil => exact DomainTrie.holds_new
  | append_singleton calls call ih =>
    rw [DomainTrie.after, foldl_append, foldl_cons]
    cases call with
    | insert domain action => exact ih.insert domain action
    | delete domain => exact ih.delete domain

section

variable (holds : trie.Holds tables calls)

include holds

theorem DomainTrie.Holds.deepest_iff (domain action : GoString) :
    LabelTrie.Deepest trie.root.valueAt (reverseDomain tables domain) action ↔
      ∃ key, key <:+ domainLabels tables domain ∧ liveAction tables calls key = some action ∧
        ∀ other, other <:+ domainLabels tables domain →
          (liveAction tables calls other).isSome → other.length ≤ key.length := by
  have turned : ∀ path, path <+: reverseDomain tables domain ↔
      path.reverse <:+ domainLabels tables domain := fun _ => reverse_suffix.symm
  constructor
  · rintro ⟨front, short, held, longest⟩
    rw [holds.values] at held
    refine ⟨front.reverse, (turned front).mp short, held, ?_⟩
    intro other within live
    have bound := longest other.reverse
    rw [turned, holds.values, reverse_reverse, length_reverse] at bound
    rw [length_reverse]
    exact bound within live
  · rintro ⟨key, short, live, longest⟩
    refine ⟨key.reverse, ?_, ?_, ?_⟩
    · rw [turned, reverse_reverse]
      exact short
    · rw [holds.values, reverse_reverse]
      exact live
    · intro other within present
      rw [turned] at within
      rw [holds.values] at present
      have bound := longest other.reverse within present
      rw [length_reverse] at bound ⊢
      exact bound

theorem DomainTrie.Holds.lookup_some_iff
    (unstarred : ∀ call ∈ calls, wildcardLabel ∉ domainLabels tables call.domain)
    (domain action : GoString) : trie.lookup tables domain = some action ↔
      ∃ key, key <:+ domainLabels tables domain ∧ liveAction tables calls key = some action ∧
        ∀ other, other <:+ domainLabels tables domain →
          (liveAction tables calls other).isSome → other.length ≤ key.length := by
  have unlisted : ∀ path, (∀ call ∈ calls, domainLabels tables call.domain ≠ path.reverse) →
      trie.root.valueAt path = none := by
    intro path absent
    rw [holds.values, ← Option.not_isSome_iff_eq_none]
    intro live
    have ⟨call, made, same⟩ := liveAction_mem tables live
    exact absent call made same
  have unused : ∀ front, trie.root.valueAt (front ++ [wildcardLabel]) = none := by
    intro front
    apply unlisted
    intro call made same
    apply unstarred call made
    rw [same, reverse_append]
    exact mem_cons_self
  have rootless : trie.root.valueAt [] = none := by
    apply unlisted
    intro call _ same
    exact DomainTrie.reverseDomain_ne_nil tables call.domain (reverse_eq_nil_iff.mp same)
  rw [DomainTrie.lookup_eq, findSome_stations_iff unused rootless, holds.deepest_iff]

theorem DomainTrie.Holds.lookup_none_iff
    (unstarred : ∀ call ∈ calls, wildcardLabel ∉ domainLabels tables call.domain)
    (domain : GoString) : trie.lookup tables domain = none ↔
      ∀ key, key <:+ domainLabels tables domain → liveAction tables calls key = none := by
  constructor
  · intro missing key short
    rw [← Option.not_isSome_iff_eq_none]
    intro live
    have within : key.reverse <+: reverseDomain tables domain := by
      rw [← reverse_suffix, reverse_reverse]
      exact short
    have present : (trie.root.valueAt key.reverse).isSome := by
      rw [holds.values, reverse_reverse]
      exact live
    have ⟨action, deepest⟩ := deepest_of_mem within present
    have hit := (holds.lookup_some_iff unstarred domain action).mpr
      ((holds.deepest_iff domain action).mp deepest)
    rw [hit] at missing
    cases missing
  · intro dead
    rw [Option.eq_none_iff_forall_ne_some]
    intro action hit
    have ⟨key, short, live, _⟩ := (holds.lookup_some_iff unstarred domain action).mp hit
    rw [dead key short] at live
    cases live

theorem DomainTrie.Holds.delete_iff (domain : GoString) :
    (trie.delete tables domain).1 = true ↔
      (liveAction tables calls (domainLabels tables domain)).isSome := by
  rw [domainLabels, ← holds.values, DomainTrie.delete]
  cases trie.root.valueAt (reverseDomain tables domain) with
  | none => exact iff_of_false Bool.false_ne_true Bool.false_ne_true
  | some action => exact iff_of_true rfl rfl

theorem DomainTrie.Holds.size_eq :
    trie.size = {key | (liveAction tables calls key).isSome}.ncard := by
  have turned : {key | (liveAction tables calls key).isSome} = List.reverse '' trie.root.keys := by
    ext key
    constructor
    · intro live
      refine ⟨key.reverse, ?_, reverse_reverse key⟩
      rw [LabelTrie.keys, Set.mem_ofPred_eq, holds.values, reverse_reverse]
      exact live
    · rintro ⟨path, listed, rfl⟩
      rw [LabelTrie.keys, Set.mem_ofPred_eq, holds.values] at listed
      exact listed
  rw [turned, Set.ncard_image_of_injective _ reverse_injective]
  exact holds.size

end

end History

/-- For every history whose keys have no label "+": a look-up returns the action of the live key
with the most labels that equals the name or ends it at a label, and finds nothing exactly when
there is no such key; deleting succeeds exactly for live keys, and the size is the number of live
keys. -/
theorem DomainTrie.serves_live_keys (tables : UnicodeTables) (calls : List TrieCall)
    (unstarred : ∀ call ∈ calls, wildcardLabel ∉ domainLabels tables call.domain) :
    let trie := DomainTrie.after tables calls
    (∀ domain action, trie.lookup tables domain = some action ↔
      ∃ key, key <:+ domainLabels tables domain ∧ liveAction tables calls key = some action ∧
        ∀ other, other <:+ domainLabels tables domain →
          (liveAction tables calls other).isSome → other.length ≤ key.length) ∧
    (∀ domain, trie.lookup tables domain = none ↔
      ∀ key, key <:+ domainLabels tables domain → liveAction tables calls key = none) ∧
    (∀ domain, (trie.delete tables domain).1 = true ↔
      (liveAction tables calls (domainLabels tables domain)).isSome) ∧
    trie.size = {key | (liveAction tables calls key).isSome}.ncard := by
  intro trie
  have holds : trie.Holds tables calls := DomainTrie.holds_after calls
  exact ⟨holds.lookup_some_iff unstarred, holds.lookup_none_iff unstarred, holds.delete_iff,
    holds.size_eq⟩

def sampleCalls : List TrieCall :=
  [.insert (lit "google.com") (lit "proxy"), .insert (lit "+.Ads.Google.com.") (lit "reject"),
    .insert (lit "example.org") (lit "direct"), .delete (lit "EXAMPLE.org")]

/-- A name below two live suffixes is decided by the longer one, a deleted suffix by none. -/
theorem sampleCalls_served :
    (DomainTrie.after bytewiseTables sampleCalls).lookup bytewiseTables
        (lit "x.ads.google.com") = some (lit "reject") ∧
      (DomainTrie.after bytewiseTables sampleCalls).lookup bytewiseTables
        (lit "www.example.org") = none ∧
      ((DomainTrie.after bytewiseTables sampleCalls).delete bytewiseTables
        (lit "google.com.")).1 = true ∧
      (DomainTrie.after bytewiseTables sampleCalls).size =
        {key | (liveAction bytewiseTables sampleCalls key).isSome}.ncard := by
  have unstarred : ∀ call ∈ sampleCalls,
      wildcardLabel ∉ domainLabels bytewiseTables call.domain := by decide +kernel
  have ⟨_, missed, deleted, size⟩ :=
    DomainTrie.serves_live_keys bytewiseTables sampleCalls unstarred
  have dead : ∀ key ∈ (domainLabels bytewiseTables (lit "www.example.org")).tails,
      liveAction bytewiseTables sampleCalls key = none := by decide +kernel
  refine ⟨by decide +kernel, ?_, ?_, size⟩
  · rw [missed]
    intro key short
    exact dead key ((mem_tails key _).mpr short)
  · decide +kernel

end Shuttle.Router
