import Mathlib.Data.List.Sort

/-!
# Searching and sorting of the Go runtime

The binary search of `sort.Search` and what `sort.Slice` promises: some reordering in which no
element is less than an earlier one. The order of elements that are not less than each other
is left open, since the sort is not stable.
-/

namespace Shuttle.Go

open List

/-- The halving loop of `sort.Search` on `[i, j)`; the first argument bounds the rounds. -/
def searchLoop (found : Nat → Bool) : Nat → Nat → Nat → Nat
  | 0, i, _ => i
  | fuel + 1, i, j =>
    if i < j then
      let h := (i + j) / 2
      if found h then searchLoop found fuel i h else searchLoop found fuel (h + 1) j
    else i

def search (n : Nat) (found : Nat → Bool) : Nat := searchLoop found n 0 n

theorem searchLoop_spec {n : Nat} {found : Nat → Bool}
    (monotone : ∀ i j, i ≤ j → j < n → found i = true → found j = true) (fuel : Nat) (i j)
    (ordered : i ≤ j) (bounded : j ≤ n) (enough : j - i ≤ fuel) (below : ∀ k < i, found k = false)
    (above : ∀ k, j ≤ k → k < n → found k = true) :
    searchLoop found fuel i j ≤ n ∧ (∀ k < searchLoop found fuel i j, found k = false) ∧ ∀ k,
      searchLoop found fuel i j ≤ k → k < n → found k = true := by
  induction fuel generalizing i j with
  | zero =>
    have same : j = i := by omega
    subst same
    exact ⟨bounded, below, above⟩
  | succ fuel ih =>
    unfold searchLoop
    by_cases inside : i < j
    · rw [if_pos inside]
      dsimp only
      cases hit : found ((i + j) / 2) with
      | true =>
        apply ih i ((i + j) / 2) (by omega) (by omega) (by omega) below
        intro k from_half inRange
        exact monotone _ k from_half inRange hit
      | false =>
        refine ih ((i + j) / 2 + 1) j (by omega) bounded (by omega) (fun k toHalf => ?_) above
        cases earlier : found k with
        | false => rfl
        | true =>
          have later := monotone k ((i + j) / 2) (by omega) (by omega) earlier
          rw [hit] at later
          contradiction
    · rw [if_neg inside]
      have same : j = i := by omega
      subst same
      exact ⟨bounded, below, above⟩

theorem search_spec {n : Nat} {found : Nat → Bool}
    (monotone : ∀ i j, i ≤ j → j < n → found i = true → found j = true) :
    search n found ≤ n ∧ (∀ k < search n found, found k = false) ∧
      ∀ k, search n found ≤ k → k < n → found k = true :=
  searchLoop_spec monotone n 0 n (Nat.zero_le n) (Nat.le_refl n) (Nat.le_refl _)
    (fun k below => absurd below (Nat.not_lt_zero k)) fun k above below => by omega

/-- A behaviour of `sort.Slice` with this comparison. -/
structure Sorter (α : Type) (less : α → α → Bool) where
  sort : List α → List α
  perm : ∀ items, (sort items).Perm items
  ordered : ∀ items, (sort items).Pairwise fun earlier later => less later earlier = false

/-- Sorting by a key in a linear order, with ties kept in place. -/
def Sorter.byKey {α κ : Type} [LinearOrder κ] (key : α → κ) :
    Sorter α fun left right => decide (key left < key right) where
  sort items := items.insertionSort fun left right => key left ≤ key right
  perm items := List.perm_insertionSort _ items
  ordered items := by
    have : Std.Total fun left right : α => key left ≤ key right :=
      ⟨fun left right => le_total (key left) (key right)⟩
    have : IsTrans α fun left right => key left ≤ key right :=
      ⟨fun _ _ _ first second => le_trans first second⟩
    have sorted := List.pairwise_insertionSort (fun left right : α => key left ≤ key right) items
    exact sorted.imp fun ordered => decide_eq_false (not_lt.mpr ordered)

theorem filter_eq_take {α : Type} {items : List α} {keeps : α → Bool} {count : Nat}
    (before : ∀ k < count, ∀ item, items[k]? = some item → keeps item = true)
    (after : ∀ k, count ≤ k → ∀ item, items[k]? = some item → keeps item = false) :
    items.filter keeps = items.take count := by
  have kept : (items.take count).filter keeps = items.take count := by
    apply filter_eq_self.mpr
    intro item member
    have ⟨k, found⟩ := mem_iff_getElem?.mp member
    rw [List.getElem?_take] at found
    split at found
    · rename_i below
      exact before k below item found
    · contradiction
  have dropped : (items.drop count).filter keeps = [] := by
    apply filter_eq_nil_iff.mpr
    intro item member
    have ⟨k, found⟩ := mem_iff_getElem?.mp member
    rw [List.getElem?_drop] at found
    rw [after (count + k) (Nat.le_add_right _ _) item found]
    exact Bool.false_ne_true
  calc
    items.filter keeps = (items.take count ++ items.drop count).filter keeps := by
      rw [take_append_drop]
    _ = items.take count := by rw [filter_append, kept, dropped, append_nil]

end Shuttle.Go
