import Mathlib.Data.List.Basic

/-!
# Readers of items from a stream

A reader takes one item from the front of its input or fails; applied until its first error it
yields the items and the error. When the items are pieces of a stream, a buffered reader hands them
out in whatever sizes it is asked for and keeps what did not fit. Any source whose reads take pieces
off the front of what it holds delivers what it holds.
-/

namespace Shuttle.Lib

open List

theorem ends_cons_iff {α : Type} {part buffered : List α} (apart : buffered ≠ part)
    (chunk : List α) (rest : List (List α)) :
    (∃ before after, chunk :: rest = before ++ after ∧ buffered ++ before.flatten = part) ↔
      ∃ before after, rest = before ++ after ∧ buffered ++ chunk ++ before.flatten = part := by
  constructor
  · rintro ⟨before, after, split, reaches⟩
    cases before with
    | nil =>
      rw [flatten_nil, append_nil] at reaches
      exact absurd reaches apart
    | cons first before =>
      have ⟨same, behind⟩ := List.cons.inj split
      rw [flatten_cons, ← same, ← append_assoc] at reaches
      exact ⟨before, after, behind, reaches⟩
  · rintro ⟨before, after, split, reaches⟩
    refine ⟨chunk :: before, after, ?_, ?_⟩
    · rw [split, cons_append]
    · rw [flatten_cons, ← append_assoc, reaches]

structure Reader (α β ε : Type) where
  read : List α → Except ε (β × List α)
  shrinks : ∀ {input rest : List α} {item : β},
    read input = .ok (item, rest) → rest.length < input.length

namespace Reader

variable {α β γ ε : Type}

/-- Read items until an error; the first argument bounds their number. -/
def allWithin (reader : Reader α β ε) : Nat → List α → List β × Option ε
  | 0, _ => ([], none)
  | fuel + 1, input =>
    match reader.read input with
    | .error error => ([], some error)
    | .ok (item, rest) =>
      (item :: (reader.allWithin fuel rest).1, (reader.allWithin fuel rest).2)

variable (reader : Reader α β ε)

def all (input : List α) : List β × Option ε :=
  reader.allWithin (input.length + 1) input

theorem allWithin_bound (fuel : Nat) (more : Nat) (input : List α) (short : input.length < fuel)
    (otherShort : input.length < more) :
    reader.allWithin fuel input = reader.allWithin more input := by
  induction fuel generalizing more input with
  | zero =>
    omega
  | succ fuel ih =>
    cases more with
    | zero => omega
    | succ more =>
      rw [allWithin, allWithin]
      cases found : reader.read input with
      | error error => rfl
      | ok pair =>
        have shorter : pair.2.length < input.length := reader.shrinks found
        dsimp only
        rw [ih more pair.2 (by omega) (by omega)]

theorem all_error {input : List α} {error : ε}
    (failed : reader.read input = .error error) : reader.all input = ([], some error) := by
  rw [all, allWithin, failed]

theorem all_ok {input rest : List α} {item : β} (found : reader.read input = .ok (item, rest)) :
    reader.all input = (item :: (reader.all rest).1, (reader.all rest).2) := by
  have shorter := reader.shrinks found
  have same := reader.allWithin_bound input.length (rest.length + 1) rest shorter (by omega)
  rw [all, allWithin, found]
  dsimp only
  rw [same, all]

variable (write : γ → List α) (item : γ → β)

theorem all_flatMap_append (calls : List γ) (tail : List α)
    (readBack : ∀ call ∈ calls, ∀ rest,
      reader.read (write call ++ rest) = .ok (item call, rest)) :
    reader.all (calls.flatMap write ++ tail) =
      (calls.map item ++ (reader.all tail).1, (reader.all tail).2) := by
  induction calls with
  | nil => rfl
  | cons call calls ih =>
    have first := readBack call mem_cons_self (calls.flatMap write ++ tail)
    have others := ih fun other member => readBack other (mem_cons_of_mem _ member)
    rw [flatMap_cons, append_assoc, reader.all_ok first, others]
    rfl

theorem all_flatMap {error : ε}
    (ended : reader.read [] = .error error) (calls : List γ)
    (readBack : ∀ call ∈ calls, ∀ rest,
      reader.read (write call ++ rest) = .ok (item call, rest)) :
    reader.all (calls.flatMap write) = (calls.map item, some error) := by
  have whole := reader.all_flatMap_append write item calls [] readBack
  rw [append_nil, reader.all_error ended, append_nil] at whole
  exact whole

theorem all_flatMap_iff {error : ε}
    (ended : reader.read [] = .error error) (good : γ → Prop) (calls : List γ)
    (readBack : ∀ call ∈ calls, good call → ∀ rest,
      reader.read (write call ++ rest) = .ok (item call, rest))
    (refused : ∀ call ∈ calls, ¬good call → ∀ rest,
      ∃ failure, reader.read (write call ++ rest) = .error failure) :
    reader.all (calls.flatMap write) = (calls.map item, some error) ↔
      ∀ call ∈ calls, good call := by
  constructor
  · induction calls with
    | nil => exact nofun
    | cons call calls ih =>
      intro whole
      rw [flatMap_cons] at whole
      by_cases held : good call
      · have first := readBack call mem_cons_self held (calls.flatMap write)
        rw [reader.all_ok first] at whole
        have ⟨items, last⟩ := Prod.mk.inj whole
        have later := ih (fun other member => readBack other (mem_cons_of_mem _ member))
          (fun other member => refused other (mem_cons_of_mem _ member))
          (Prod.ext (List.cons.inj items).2 last)
        exact forall_mem_cons.mpr ⟨held, later⟩
      · have ⟨failure, failed⟩ := refused call mem_cons_self held (calls.flatMap write)
        rw [reader.all_error failed] at whole
        cases (Prod.mk.inj whole).1
  · intro held
    exact reader.all_flatMap write item ended calls fun call member =>
      readBack call member (held call member)

end Reader

/-! ## Streams of any kind -/

/-- What repeated reads of a stream return: items, and the error that ends them. -/
inductive Yields {σ β ε : Type} (read : σ → Except ε (β × σ)) : σ → List β → ε → Prop
  | done {stream : σ} {error : ε} (failed : read stream = .error error) :
      Yields read stream [] error
  /-- The first read returns an item, and those behind it the rest. -/
  | more {stream rest : σ} {item : β} {items : List β} {error : ε}
      (found : read stream = .ok (item, rest)) (later : Yields read rest items error) :
      Yields read stream (item :: items) error

theorem yields_flatMap {α β γ ε : Type} {read : List α → Except ε (β × List α)}
    (write : γ → List α) (item : γ → β) {error : ε} (ended : read [] = .error error)
    (calls : List γ)
    (readBack : ∀ call ∈ calls, ∀ rest, read (write call ++ rest) = .ok (item call, rest)) :
    Yields read (calls.flatMap write) (calls.map item) error := by
  induction calls with
  | nil => exact .done ended
  | cons call calls ih =>
    have first := readBack call mem_cons_self (calls.flatMap write)
    exact .more first (ih fun other member => readBack other (mem_cons_of_mem _ member))

theorem yields_iff_all {σ α β ε : Type} (reader : Reader α β ε) {read : σ → Except ε (β × σ)}
    {input : σ → List α}
    (same : ∀ stream, reader.read (input stream) =
      (read stream).map fun pair => (pair.1, input pair.2))
    {stream : σ} {items : List β} {error : ε} :
    Yields read stream items error ↔ reader.all (input stream) = (items, some error) := by
  constructor
  · intro yields
    induction yields with
    | @done stream error failed =>
      have flat := same stream
      rw [failed] at flat
      exact reader.all_error flat
    | @more stream rest item items error found _ ih =>
      have flat := same stream
      rw [found] at flat
      rw [reader.all_ok flat]
      rw [ih]
  · intro whole
    induction items generalizing stream with
    | nil =>
      have flat := same stream
      cases found : read stream with
      | error failure =>
        rw [found] at flat
        rw [reader.all_error flat] at whole
        cases whole
        exact .done found
      | ok pair =>
        rw [found] at flat
        rw [reader.all_ok flat] at whole
        cases (Prod.mk.inj whole).1
    | cons item items ih =>
      have flat := same stream
      cases found : read stream with
      | error failure =>
        rw [found] at flat
        rw [reader.all_error flat] at whole
        cases (Prod.mk.inj whole).1
      | ok pair =>
        rw [found] at flat
        rw [reader.all_ok flat] at whole
        have ⟨front, last⟩ := Prod.mk.inj whole
        have ⟨first, behind⟩ := List.cons.inj front
        have later := ih (Prod.ext behind last)
        rw [← first]
        exact .more found later

/-! ## Sources -/

structure Source (σ α ε : Type) where
  read : Nat → σ → Except ε (List α × σ)

namespace Source

variable {σ α ε : Type} (source : Source σ α ε)

/-- Read into buffers of these sizes up to the first error: all that was read, and the error. -/
def reads : List Nat → σ → List α × Option ε
  | [], _ => ([], none)
  | size :: sizes, state =>
    match source.read size state with
    | .error error => ([], some error)
    | .ok (chunk, next) => (chunk ++ (reads sizes next).1, (reads sizes next).2)

structure Delivers (state : σ) (data : List α) (error : ε) : Prop where
  front : ∀ sizes, (source.reads sizes state).1 <+: data
  whole : ∀ sizes failure, (source.reads sizes state).2 = some failure →
    failure = error ∧ (source.reads sizes state).1 = data
  ends : ∃ enough, ∀ sizes, enough < sizes.countP (0 < ·) →
    (source.reads sizes state).2 = some error

variable {source}

theorem reads_of_holds {error : ε} (holds : σ → List α → Nat → Prop)
    (kept : ∀ size state data left, holds state data left →
      source.read size state = .error error ∧ data = [] ∨
      ∃ chunk next rest less, source.read size state = .ok (chunk, next) ∧ holds next rest less ∧
        data = chunk ++ rest ∧ less ≤ left ∧ (0 < size → less < left)) (sizes : List Nat) :
    ∀ {state : σ} {data : List α} {left : Nat}, holds state data left →
      (source.reads sizes state).1 <+: data ∧
      (∀ failure, (source.reads sizes state).2 = some failure →
        failure = error ∧ (source.reads sizes state).1 = data) ∧
      (left < sizes.countP (0 < ·) → (source.reads sizes state).2 = some error) := by
  induction sizes with
  | nil =>
    intro state data left _
    exact ⟨List.nil_prefix, nofun, nofun⟩
  | cons size sizes ih =>
    intro state data left now
    rcases kept size state data left now with
      ⟨failed, empty⟩ | ⟨chunk, next, rest, less, found, later, split, least, progress⟩
    · rw [reads, failed, empty]
      exact ⟨List.nil_prefix, fun failure cause => ⟨(Option.some.inj cause).symm, rfl⟩,
        fun _ => rfl⟩
    · have ⟨front, whole, ends⟩ := ih later
      rw [reads, found, split]
      refine ⟨(prefix_append_right_inj chunk).mpr front, fun failure cause => ?_,
        fun enough => ends ?_⟩
      · have ⟨same, all⟩ := whole failure cause
        exact ⟨same, congrArg (chunk ++ ·) all⟩
      · by_cases positive : 0 < size
        · rw [countP_cons_of_pos (by simpa using positive)] at enough
          omega
        · rw [countP_cons_of_neg (by simpa using positive)] at enough
          omega

theorem Delivers.unique {state : σ} {left right : List α} {error other : ε}
    (leftDelivers : source.Delivers state left error)
    (rightDelivers : source.Delivers state right other) : left = right := by
  have ⟨enough, reached⟩ := leftDelivers.ends
  have positive : (List.replicate (enough + 1) 1).countP (0 < ·) = enough + 1 := by
    rw [countP_replicate]
    rfl
  have ended := reached (List.replicate (enough + 1) 1) (by omega)
  have ⟨_, leftWhole⟩ := leftDelivers.whole _ _ ended
  have ⟨_, rightWhole⟩ := rightDelivers.whole _ _ ended
  rw [← leftWhole, ← rightWhole]

/-- A source that hands out items in the sizes it is asked for and keeps what did not fit. -/
def buffered (next : σ → Except ε (List α × σ)) : Source (List α × σ) α ε where
  read size stream :=
    if 0 < stream.1.length then .ok (stream.1.take size, (stream.1.drop size, stream.2))
    else
      match next stream.2 with
      | .error error => .error error
      | .ok (item, rest) => .ok (item.take size, (item.drop size, rest))

variable {next : σ → Except ε (List α × σ)} {state : σ} {items : List (List α)} {error : ε}
  (yields : Yields next state items error) (pending : List α)

include yields

theorem buffered_reads (sizes : List Nat) :
    ((buffered next).reads sizes (pending, state)).1 <+: pending ++ items.flatten ∧
      (∀ failure, ((buffered next).reads sizes (pending, state)).2 = some failure →
        failure = error ∧
          ((buffered next).reads sizes (pending, state)).1 = pending ++ items.flatten) ∧
      (items.length + (pending ++ items.flatten).length < sizes.countP (0 < ·) →
        ((buffered next).reads sizes (pending, state)).2 = some error) := by
  refine reads_of_holds (fun stream data left => ∃ items,
    Yields next stream.2 items error ∧ data = stream.1 ++ items.flatten ∧
      left = items.length + data.length) ?_ sizes ⟨items, yields, rfl, rfl⟩
  rintro size ⟨pending, state⟩ data left ⟨items, yields, rfl, rfl⟩
  -- both kinds of reads take a piece off a list and leave the rest of it in front
  have split (front : List α) (behind : List (List α)) :
      front ++ behind.flatten = front.take size ++ (front.drop size ++ behind.flatten) := by
    rw [← append_assoc, take_append_drop]
  unfold buffered
  dsimp only
  by_cases waiting : 0 < pending.length
  · rw [if_pos waiting]
    refine .inr ⟨_, _, _, _, rfl, ⟨items, yields, rfl, rfl⟩, split pending items, ?_,
      fun positive => ?_⟩
    all_goals
      rw [length_append, length_append, length_drop]
      omega
  · have empty : pending = [] := eq_nil_of_length_eq_zero (by omega)
    rw [empty, nil_append]
    cases yields with
    | done failed =>
      rw [failed]
      exact .inl ⟨rfl, rfl⟩
    | @more _ rest item items _ found later =>
      rw [found, flatten_cons]
      refine .inr ⟨_, _, _, _, rfl, ⟨items, later, rfl, rfl⟩, split item items, ?_, fun _ => ?_⟩
      all_goals
        rw [length_cons, length_append, length_append, length_drop]
        omega

theorem buffered_delivers :
    (buffered next).Delivers (pending, state) (pending ++ items.flatten) error :=
  ⟨fun sizes => (buffered_reads yields pending sizes).1,
    fun sizes => (buffered_reads yields pending sizes).2.1,
    _, fun sizes => (buffered_reads yields pending sizes).2.2⟩

end Source

end Shuttle.Lib
