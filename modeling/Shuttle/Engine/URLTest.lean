import Shuttle.Go.Text
import Mathlib.Algebra.Group.Int.Defs

/-!
# Selection by url-test

A group checks all its members in rounds and selects by the results. `Checker.Check` records the
duration of a check whatever its outcome, and `Results` reports a member available until it has
failed a number of times in a row, so that a check that fails quickly counts as a low latency.
-/

namespace Shuttle.Engine

open Shuttle.Go List

structure CheckResult where
  latency : Int
  available : Bool

/-- The checks of one round of `checkAll`, by the tags of the members. -/
abbrev Round := GoString → CheckResult

structure NodeState where
  lastResult : CheckResult
  consecutiveFail : Nat
  everSucceeded : Bool

/-- The failures that mark a node down, and the improvement that is worth a switch. -/
structure URLTestConfig where
  failures : Int
  toleranceMS : Int

structure URLTestState where
  nodes : GoMap GoString NodeState
  selected : Option GoString

namespace URLTestConfig

variable (config : URLTestConfig)

/-- `Tolerance` of the checker, with its default. -/
def maxFailures : Int := if config.failures = 0 then 3 else config.failures

/-- The tolerance of `newURLTestState` in nanoseconds, with its default. -/
def tolerance : Int := (if config.toleranceMS ≤ 0 then 50 else config.toleranceMS) * 10 ^ 6

def result (node : NodeState) : CheckResult :=
  ⟨node.lastResult.latency,
    node.everSucceeded && decide ((node.consecutiveFail : Int) < config.maxFailures)⟩

def results (nodes : GoMap GoString NodeState) : GoMap GoString CheckResult :=
  fun tag => (nodes tag).map config.result

/-- `Check` records a result in a node, which is created if need be. -/
def record (node : Option NodeState) (result : CheckResult) : NodeState :=
  let node := node.getD ⟨⟨0, false⟩, 0, false⟩
  if result.available then ⟨result, 0, true⟩
  else ⟨result, node.consecutiveFail + 1, node.everSucceeded⟩

/-- The members that the loop of `selectBest` does not skip, with their latencies. -/
def candidates (results : GoMap GoString CheckResult) (members : List GoString) :
    List (GoString × Int) :=
  members.filterMap fun tag =>
    match results tag with
    | none => none
    | some r => if r.available then some (tag, r.latency) else none

variable (members : List GoString)

variable (state : URLTestState)

def selectBest : URLTestState :=
  let results := config.results state.nodes
  -- The first of the lowest latency.
  match (candidates results members).minOn? Prod.snd with
  | none => state
  | some (bestTag, bestLatency) =>
    let enough := state.selected.any fun current => (results current).any fun r =>
      r.available && r.latency - bestLatency ≤ config.tolerance
    if enough then state else { state with selected := some bestTag }

/-- One round; tags are distinct, so the checks are recorded in nodes of their own. -/
def checkAll (round : Round) : URLTestState :=
  config.selectBest members ⟨fun tag =>
    if members.any (· = tag) then some (record (state.nodes tag) (round tag))
    else state.nodes tag, state.selected⟩

def after (rounds : List Round) : URLTestState :=
  rounds.foldl (config.checkAll members) ⟨fun _ => none, none⟩

def Available (tag : GoString) : Prop :=
  ∃ latency, config.results state.nodes tag = some ⟨latency, true⟩

theorem mem_candidates {results : GoMap GoString CheckResult} {members : List GoString}
    {tag : GoString} {latency : Int} :
    (tag, latency) ∈ candidates results members ↔
      tag ∈ members ∧ results tag = some ⟨latency, true⟩ := by
  simp only [candidates, mem_filterMap]
  constructor
  · rintro ⟨other, listed, kept⟩
    split at kept
    · cases kept
    · rename_i r known
      split at kept <;> cases kept
      rename_i up
      exact ⟨listed, by rw [known, ← up]⟩
  · rintro ⟨listed, known⟩
    exact ⟨tag, listed, by simp [known]⟩

theorem tolerance_nonneg : 0 ≤ config.tolerance := by
  unfold tolerance
  split <;> omega

theorem selectBest_nodes : (config.selectBest members state).nodes = state.nodes := by
  unfold selectBest
  grind

/-- When some member is available, the selected one is, and its latency is within the tolerance. -/
theorem selectBest_spec (live : ∃ tag ∈ members, config.Available state tag) :
    ∃ tag own, (config.selectBest members state).selected = some tag ∧
      config.results state.nodes tag = some ⟨own, true⟩ ∧
      ∀ other ∈ members, ∀ latency, config.results state.nodes other = some ⟨latency, true⟩ →
        own ≤ latency + config.tolerance := by
  have within := config.tolerance_nonneg
  obtain ⟨tag, listed, latency, known⟩ := live
  have ⟨best, chosen⟩ : ∃ best,
      (candidates (config.results state.nodes) members).minOn? Prod.snd = some best :=
    ⟨_, List.minOn?_eq_some_minOn (ne_nil_of_mem (mem_candidates.mpr ⟨listed, known⟩))⟩
  have least (other) (member : other ∈ members) (latency)
      (reported : config.results state.nodes other = some ⟨latency, true⟩) : best.2 ≤ latency := by
    have found := mem_candidates.mpr ⟨member, reported⟩
    have same := (List.minOn?_eq_some_minOn (ne_nil_of_mem found)).symm.trans chosen
    rw [← Option.some.inj same]
    exact List.apply_minOn_le_of_mem found
  simp only [selectBest, chosen]
  split
  · rename_i enough
    simp only [Option.any_eq_true, Bool.and_eq_true, decide_eq_true_eq] at enough
    have ⟨current, selected, own, reported, up, near⟩ := enough
    refine ⟨current, own.latency, selected, by rw [reported, ← up], ?_⟩
    intro other member latency found
    have := least other member latency found
    omega
  · refine ⟨best.1, best.2, rfl, (mem_candidates.mp (List.minOn?_mem chosen)).2, ?_⟩
    intro other member latency found
    have := least other member latency found
    omega

end URLTestConfig

/-- The latency of the last check of a member that succeeded. -/
def latestSuccess (rounds : List Round) (tag : GoString) : Option Int :=
  rounds.reverse.findSome? fun round =>
    if (round tag).available then some (round tag).latency else none

namespace URLTestConfig

variable {config : URLTestConfig} {members : List GoString}

theorem after_concat (rounds : List Round) (round : Round) :
    ∃ state, config.after members (rounds ++ [round]) = config.selectBest members state ∧
      ∀ tag, state.nodes tag =
        if tag ∈ members then some (record ((config.after members rounds).nodes tag) (round tag))
        else (config.after members rounds).nodes tag := by
  refine ⟨_, by rw [after, foldl_append, ← after, foldl_cons, foldl_nil, checkAll], fun tag => ?_⟩
  simp

theorem after_member {tag : GoString} (rounds : List Round)
    (known : (config.after members rounds).nodes tag ≠ none) : tag ∈ members := by
  induction rounds using List.reverseRecOn with
  | nil => exact absurd rfl known
  | append_singleton rounds round ih =>
    have ⟨state, same, nodes⟩ := @after_concat config members rounds round
    rw [same, selectBest_nodes, nodes] at known
    grind

/-- After a round in which a check succeeded the selected member is available; if no member that is
still available failed in the round, its latest success is within the tolerance of all others, and a
new selection has succeeded. -/
theorem selection_follows_round (config : URLTestConfig) (failures : 0 ≤ config.failures)
    (members : List GoString) (rounds : List Round) (round : Round)
    (succeeded : ∃ tag ∈ members, (round tag).available = true) :
    ∃ tag, (config.after members (rounds ++ [round])).selected = some tag ∧
      config.Available (config.after members (rounds ++ [round])) tag ∧
      ((∀ other ∈ members, config.Available (config.after members (rounds ++ [round])) other →
          (round other).available = true) →
        (round tag).available = true ∧
        ∃ own, latestSuccess (rounds ++ [round]) tag = some own ∧
          ∀ other ∈ members, config.Available (config.after members (rounds ++ [round])) other →
            ∃ latency, latestSuccess (rounds ++ [round]) other = some latency ∧
              own ≤ latency + config.tolerance) := by
  have latest {tag : GoString} (up : (round tag).available = true) :
      latestSuccess (rounds ++ [round]) tag = some (round tag).latency := by
    simp [latestSuccess, up]
  have positive : 0 < config.maxFailures := by
    unfold maxFailures
    split <;> omega
  have ⟨state, same, nodes⟩ := @after_concat config members rounds round
  have member {tag : GoString} := @after_member config members tag (rounds ++ [round])
  rw [same, selectBest_nodes] at member
  simp only [Available, same, selectBest_nodes]
  have recorded {tag : GoString} (listed : tag ∈ members) (up : (round tag).available = true) :
      config.results state.nodes tag = some ⟨(round tag).latency, true⟩ := by
    simp [results, nodes, listed, result, record, up, positive]
  have ⟨first, listed, up⟩ := succeeded
  have ⟨tag, own, selected, reported, least⟩ :=
    config.selectBest_spec members state ⟨first, listed, _, recorded listed up⟩
  refine ⟨tag, selected, ⟨own, reported⟩, fun fresh => ?_⟩
  have known : tag ∈ members := member fun none => by simp [results, none] at reported
  have tagUp := fresh tag known ⟨own, reported⟩
  cases reported.symm.trans (recorded known tagUp)
  refine ⟨tagUp, _, latest tagUp, fun other listed live => ?_⟩
  have otherUp := fresh other listed live
  exact ⟨_, latest otherUp, least other listed _ (recorded listed otherUp)⟩

def sampleRound (a b : CheckResult) : Round := fun tag => if tag = lit "a" then a else b

def bothSucceed : Round := sampleRound ⟨100 * 10 ^ 6, true⟩ ⟨200 * 10 ^ 6, true⟩

theorem faster_selected :
    ∃ tag, (after ⟨0, 0⟩ [lit "a", lit "b"] [bothSucceed]).selected = some tag ∧
      ∃ own, latestSuccess [bothSucceed] tag = some own ∧ own ≤ 150 * 10 ^ 6 := by
  have up (tag : GoString) : (bothSucceed tag).available = true := by
    unfold bothSucceed sampleRound
    split <;> rfl
  have ⟨tag, selected, _, fresh⟩ := selection_follows_round ⟨0, 0⟩ (by decide)
    [lit "a", lit "b"] [] bothSucceed ⟨lit "a", mem_cons_self, up _⟩
  have ⟨_, own, success, within⟩ := fresh fun other _ _ => up other
  have ⟨latency, first, bound⟩ := within (lit "a") mem_cons_self ⟨100 * 10 ^ 6, rfl⟩
  cases first
  exact ⟨tag, selected, own, success, bound⟩

/-- In the second round the slower member fails within a millisecond, and is selected for it. -/
theorem failed_member_selected :
    let rounds := [bothSucceed, sampleRound ⟨100 * 10 ^ 6, true⟩ ⟨10 ^ 6, false⟩]
    (after ⟨0, 0⟩ [lit "a", lit "b"] [bothSucceed]).selected = some (lit "a") ∧
      (after ⟨0, 0⟩ [lit "a", lit "b"] rounds).selected = some (lit "b") ∧
      latestSuccess rounds (lit "a") = some (100 * 10 ^ 6) ∧
      latestSuccess rounds (lit "b") = some (200 * 10 ^ 6) := by
  decide +kernel

end URLTestConfig

end Shuttle.Engine
