import Mathlib.Data.Finset.Card

/-!
# Depth-first search with three colours

The search for a cycle in a finite graph: a node is grey while its successors are visited and black
afterwards, and an edge to a grey node closes a cycle. Black nodes are accessible for the reversed
edges, and every grey node leads to the node that is visited, so the search reports a cycle exactly
when there is one, whatever the order of the nodes.
-/

namespace Shuttle.Lib.DepthFirst

open List

inductive Color where
  | white
  | gray
  | black
deriving DecidableEq

/-- None if the search ran out of rounds, else the edge that closes a cycle or the colours. -/
abbrev Outcome (κ : Type) := Option (Except (κ × κ) (κ → Color))

def Outcome.andThen {κ : Type} (outcome : Outcome κ) (rest : (κ → Color) → Outcome κ) : Outcome κ :=
  match outcome with
  | some (.ok color) => rest color
  | stopped => stopped

def Edge {κ : Type} (next : κ → List κ) (isNode : κ → Bool) (node member : κ) : Prop :=
  member ∈ next node ∧ isNode member = true

variable {κ : Type}

section Search

variable (next : κ → List κ) (isNode : κ → Bool)

/-- The loop over the successors of a node; what is no node is skipped. -/
def scan (visit : κ → (κ → Color) → Outcome κ) (node : κ) : List κ → (κ → Color) → Outcome κ
  | [], color => some (.ok color)
  | member :: rest, color =>
    if isNode member then
      match color member with
      | .gray => some (.error (node, member))
      | .black => scan visit node rest color
      | .white => (visit member color).andThen (scan visit node rest)
    else scan visit node rest color

/-- Visit a node; the first argument bounds the depth. -/
def dfs [DecidableEq κ] : Nat → κ → (κ → Color) → Outcome κ
  | 0, _, _ => none
  | fuel + 1, node, color =>
    (scan isNode (dfs fuel) node (next node) (Function.update color node .gray)).andThen
      fun color => some (.ok (Function.update color node .black))

def dfsAll [DecidableEq κ] (fuel : Nat) : List κ → (κ → Color) → Outcome κ
  | [], color => some (.ok color)
  | node :: rest, color =>
    if color node = .white then (dfs next isNode fuel node color).andThen (dfsAll fuel rest)
    else dfsAll fuel rest color

end Search

section Sound

variable (next : κ → List κ) (isNode : κ → Bool)

/-- What a search may do to the colours; black nodes are accessible against the edges. -/
structure Advances (before after : κ → Color) : Prop where
  gray : ∀ node, after node = .gray ↔ before node = .gray
  white : ∀ node, after node = .white → before node = .white
  done : ∀ node, after node = .black → Acc (fun member node => Edge next isNode node member) node

/-- What a search gives: colours, with these nodes black, or a cycle. -/
def Sound (before : κ → Color) (blackened : List κ) (outcome : Outcome κ) : Prop :=
  (∃ after, outcome = some (.ok after) ∧ Advances next isNode before after ∧
    ∀ node ∈ blackened, after node = .black) ∨
  (∃ edge node, outcome = some (.error edge) ∧ Relation.TransGen (Edge next isNode) node node)

structure Ready (nodes : Finset κ) (fuel : Nat) (node : κ) (color : κ → Color) : Prop where
  bounded : (nodes.filter fun other => color other = .white).card ≤ fuel
  leads : ∀ other, color other = .gray → Relation.ReflTransGen (Edge next isNode) other node
  done : Advances next isNode color color

end Sound

variable {next : κ → List κ} {isNode : κ → Bool} {nodes : Finset κ} {fuel : Nat} {node : κ}
  {before middle after : κ → Color}

theorem Advances.trans (first : Advances next isNode before middle)
    (second : Advances next isNode middle after) : Advances next isNode before after :=
  ⟨fun node => (second.gray node).trans (first.gray node),
    fun node white => first.white node (second.white node white), second.done⟩

theorem Advances.black (advances : Advances next isNode before after)
    (black : before node = .black) : after node = .black := by
  have gray := advances.gray node
  have white := advances.white node
  cases color : after node <;> simp_all

theorem not_rel_of_acc {relation : κ → κ → Prop} (acc : Acc relation node) :
    ¬relation node node := by
  induction acc with
  | intro node _ ih => exact fun self => ih node self self

theorem Sound.andThen {first rest : List κ} {outcome : Outcome κ}
    {goOn : (κ → Color) → Outcome κ} (sound : Sound next isNode before first outcome)
    (goes : ∀ middle, Advances next isNode before middle →
      Sound next isNode middle rest (goOn middle)) :
    Sound next isNode before (first ++ rest) (outcome.andThen goOn) := by
  rcases sound with ⟨middle, ran, advances, black⟩ | ⟨closing, on, ran, cycle⟩
  · rw [ran]
    rcases goes middle advances with ⟨after, ran, more, blacks⟩ | cycle
    · refine .inl ⟨after, ran, advances.trans more, fun node listed => ?_⟩
      exact (mem_append.mp listed).elim (fun early => more.black (black node early))
        (blacks node)
    · exact .inr cycle
  · exact .inr ⟨closing, on, by rw [ran]; rfl, cycle⟩

theorem Sound.skip {rest : List κ} {outcome : Outcome κ}
    (sound : Sound next isNode before rest outcome) (black : before node = .black) :
    Sound next isNode before (node :: rest) outcome := by
  rcases sound with ⟨after, ran, advances, blacks⟩ | cycle
  · exact .inl ⟨after, ran, advances, by simpa [advances.black black] using blacks⟩
  · exact .inr cycle

theorem Ready.advance {node : κ} (ready : Ready next isNode nodes fuel node before)
    (advances : Advances next isNode before after) : Ready next isNode nodes fuel node after where
  bounded := (Finset.card_le_card (Finset.monotone_filter_right nodes
    fun other _ => advances.white other)).trans ready.bounded
  leads other gray := ready.leads other ((advances.gray other).mp gray)
  done := ⟨fun _ => Iff.rfl, fun _ white => white, advances.done⟩

variable [DecidableEq κ]

theorem Ready.enter (ready : Ready next isNode nodes (fuel + 1) node before)
    (listed : node ∈ nodes) (white : before node = .white) :
    Ready next isNode nodes fuel node (Function.update before node .gray) where
  bounded := by
    have fewer : (nodes.filter fun other => Function.update before node .gray other = .white) ⊆
        (nodes.filter fun other => before other = .white).erase node := by
      intro other inside
      by_cases same : other = node <;> simp_all
    have count := Finset.card_le_card fewer
    rw [Finset.card_erase_of_mem (Finset.mem_filter.mpr ⟨listed, white⟩)] at count
    have bounded := ready.bounded
    omega
  leads other gray := by
    by_cases same : other = node
    · exact same ▸ .refl
    · exact ready.leads other (by simpa [same] using gray)
  done := by
    refine ⟨fun _ => Iff.rfl, fun _ white => white, fun other black => ?_⟩
    by_cases same : other = node
    · simp [same] at black
    · exact ready.done.done other (by simpa [same] using black)

theorem scan_sound (visits : ∀ member color, isNode member = true → color member = .white →
      Ready next isNode nodes fuel member color →
      Sound next isNode color [member] (dfs next isNode fuel member color)) (members : List κ) :
    ∀ color, members ⊆ next node → Ready next isNode nodes fuel node color →
      Sound next isNode color (members.filter isNode)
        (scan isNode (dfs next isNode fuel) node members color) := by
  induction members with
  | nil => exact fun color _ ready => .inl ⟨color, rfl, ready.done, by simp⟩
  | cons member rest ih =>
    intro color listed ready
    have later : rest ⊆ next node := fun other inside => listed (mem_cons_of_mem _ inside)
    rw [scan]
    cases known : isNode member with
    | false => simpa [known] using ih color later ready
    | true =>
      have edge : Edge next isNode node member := ⟨listed mem_cons_self, known⟩
      rw [filter_cons_of_pos known]
      -- a grey member leads to the node, so the edge back to it closes a cycle
      cases shade : color member with
      | gray => exact .inr ⟨_, member, rfl, .tail' (ready.leads member shade) edge⟩
      | black => exact (ih color later ready).skip shade
      | white =>
        have visited := visits member color known shade
          ⟨ready.bounded, fun other gray => (ready.leads other gray).tail edge, ready.done⟩
        exact visited.andThen fun middle advances => ih middle later (ready.advance advances)

theorem dfs_sound (covered : ∀ node, isNode node = true → node ∈ nodes) (fuel : Nat) (node color)
    (known : isNode node = true) (white : color node = .white)
    (ready : Ready next isNode nodes fuel node color) :
    Sound next isNode color [node] (dfs next isNode fuel node color) := by
  induction fuel generalizing node color with
  | zero =>
    -- the node itself is white, so there is a round left for it
    have inside : node ∈ nodes.filter fun other => color other = .white :=
      Finset.mem_filter.mpr ⟨covered node known, white⟩
    exact absurd ready.bounded (Finset.card_pos.mpr ⟨node, inside⟩).not_ge
  | succ fuel ih =>
    have scanned := scan_sound ih (next node) _ (fun _ inside => inside)
      (ready.enter (covered node known) white)
    rw [dfs]
    rcases scanned with ⟨last, ran, advances, black⟩ | ⟨closing, on, ran, cycle⟩
    · rw [ran]
      refine .inl ⟨_, rfl, ⟨fun other => ?_, fun other => ?_, fun other => ?_⟩, by simp⟩
      · have gray := advances.gray other
        by_cases same : other = node <;> simp_all
      · have stays := advances.white other
        by_cases same : other = node <;> simp_all
      · by_cases same : other = node
        · subst same
          -- all successors are black by now, so the node is accessible as well
          refine fun _ => ⟨_, fun member edge => advances.done member (black member ?_)⟩
          exact mem_filter.mpr edge
        · simpa [same] using advances.done other
    · exact .inr ⟨closing, on, by rw [ran]; rfl, cycle⟩

theorem dfsAll_sound (covered : ∀ node, isNode node = true → node ∈ nodes)
    (enough : nodes.card ≤ fuel) (order : List κ) :
    ∀ color, (∀ node ∈ order, isNode node = true) → (∀ node, color node ≠ .gray) →
      Advances next isNode color color →
      Sound next isNode color order (dfsAll next isNode fuel order color) := by
  induction order with
  | nil => exact fun color _ _ done => .inl ⟨color, rfl, done, by simp⟩
  | cons node rest ih =>
    intro color known calm done
    have later := fun other listed => known other (mem_cons_of_mem _ listed)
    rw [dfsAll]
    split
    · rename_i white
      have visited := dfs_sound covered fuel node color (known node mem_cons_self) white
        ⟨(Finset.card_filter_le nodes _).trans enough, fun other gray => absurd gray (calm other),
          done⟩
      exact visited.andThen fun middle advances => ih middle later
        (fun other gray => calm other ((advances.gray other).mp gray))
        ⟨fun _ => Iff.rfl, fun _ white => white, advances.done⟩
    · have black : color node = .black := by
        cases shade : color node <;> simp_all
      exact (ih color later calm done).skip black

theorem dfsAll_ok_iff {order : List κ} (listed : ∀ node, node ∈ order ↔ isNode node = true) :
    (dfsAll next isNode order.length order fun _ => .white).isSome = true ∧
      ((∃ color, dfsAll next isNode order.length order (fun _ => .white) = some (.ok color)) ↔
        ∀ node, ¬Relation.TransGen (Edge next isNode) node node) := by
  have sound : Sound next isNode (fun _ => .white) order
      (dfsAll next isNode order.length order fun _ => .white) :=
    dfsAll_sound (fun node known => mem_toFinset.mpr ((listed node).mpr known))
      (toFinset_card_le order) order _ (fun node => (listed node).mp) (fun _ => nofun)
      ⟨fun _ => Iff.rfl, fun _ => id, nofun⟩
  rcases sound with ⟨color, ran, advances, black⟩ | ⟨closing, on, ran, cycle⟩
  · refine ⟨by rw [ran]; rfl, iff_of_true ⟨color, ran⟩ fun node cycle => ?_⟩
    have last : isNode node = true := by
      cases cycle with
      | single edge | tail _ edge => exact edge.2
    have acc := (advances.done node (black node ((listed node).mpr last))).transGen
    exact not_rel_of_acc acc (Relation.transGen_swap.mp cycle)
  · refine ⟨by rw [ran]; rfl, iff_of_false ?_ fun acyclic => acyclic on cycle⟩
    rw [ran]
    nofun

end Shuttle.Lib.DepthFirst
