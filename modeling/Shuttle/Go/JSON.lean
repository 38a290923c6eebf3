import Shuttle.Go.Text

/-!
# JSON documents and their decoding

What `encoding/json` does behind its scanner: a document is decoded into a variable that already has
a value. Unknown members are ignored, absent ones leave their fields alone, so does `null` for
strings, numbers and records, and a value of the wrong kind is an error. The scanner is a parameter
with three laws.
-/

namespace Shuttle.Go

inductive Json where
  | null
  | bool (value : Bool)
  /-- A number, with its value if an `int` can have it, and whether a `float64` can hold it. -/
  | number (value : Option Int) (float : Bool)
  | string (text : GoString)
  | array (items : List Json)
  | object (members : List (GoString × Json))

def Json.composite : Json → Bool
  | .array _ | .object _ => true
  | _ => false

mutual

/-- Every number of a document can be held by a `float64`. -/
def Json.inRange : Json → Bool
  | .number _ float => float
  | .array items => Json.itemsInRange items
  | .object members => Json.membersInRange members
  | _ => true

def Json.itemsInRange : List Json → Bool
  | [] => true
  | item :: items => item.inRange && Json.itemsInRange items

def Json.membersInRange : List (GoString × Json) → Bool
  | [] => true
  | (_, doc) :: members => doc.inRange && Json.membersInRange members

end

structure JSONReader where
  /-- The document of a text, none for an invalid text. -/
  parse : GoString → Option Json
  /-- The folding under which member names are compared when no field has the exact name. -/
  fold : GoString → GoString
  /-- The texts of arrays and objects have brackets or braces. -/
  bracketed : ∀ text doc, parse text = some doc → doc.composite = true → 0x5b ∈ text ∨ 0x7b ∈ text
  /-- No line of a valid text starts with one of these letters: only literals do not stand in
  quotation marks, and no string goes over the end of a line. -/
  lines : ∀ text doc, parse text = some doc → ∀ line ∈ splitByte 0x0a text,
    line.head? ≠ some 0x70 ∧ line.head? ≠ some 0x73
  trimmed : ∀ text doc, parse text = some doc → parse (trimSpace text) = some doc

/-- Decoding into a variable with a value; none is an error. -/
abbrev Decoder (α : Type) := α → Json → Option α

namespace Decoder

variable {α σ : Type}

def text : Decoder GoString
  | _, .string text => some text
  | old, .null => some old
  | _, _ => none

def int : Decoder Int
  | _, .number value _ => value
  | old, .null => some old
  | _, _ => none

def raw : Decoder Json := fun _ doc => some doc

/-- Into a map from strings to anything, which keeps its entries; `null` makes it nil. -/
def members : Decoder (Option (GoMap GoString Json))
  | old, .object members =>
    if Json.membersInRange members then some (some ((old.getD GoMap.empty).setAll members))
    else none
  | _, .null => some none
  | _, _ => none

def list (element : Decoder α) (zero : α) : Decoder (List α)
  | old, .array items =>
    items.zipIdx.mapM fun (item, position) => element (old.getD position zero) item
  | _, .null => some []
  | _, _ => none

/-- A field of a record: its name and how a member is decoded into it. -/
structure Field (σ : Type) where
  name : GoString
  set : Decoder σ

/-- The field of a member: the one with this name, or else the first one up to folding. -/
def fieldOf (fold : GoString → GoString) (fields : List (Field σ)) (key : GoString) :
    Option (Field σ) :=
  match fields.find? fun field => field.name = key with
  | some field => some field
  | none => fields.find? fun field => fold field.name = fold key

def record (fold : GoString → GoString) (fields : List (Field σ)) : Decoder σ
  | old, .object members => members.foldlM (fun value member =>
      match fieldOf fold fields member.1 with
      | none => some value
      | some field => field.set value member.2) old
  | old, .null => some old
  | _, _ => none

variable {fold : GoString → GoString} {fields : List (Field σ)}

theorem fieldOf_spec {key : GoString} {field : Field σ}
    (found : fieldOf fold fields key = some field) :
    field ∈ fields ∧ fold field.name = fold key := by
  rw [fieldOf] at found
  split at found
  · rename_i named
    cases found
    have same := List.find?_some named
    exact ⟨List.mem_of_find?_eq_some named, congrArg fold (of_decide_eq_true same)⟩
  · have same := List.find?_some found
    exact ⟨List.mem_of_find?_eq_some found, of_decide_eq_true same⟩

theorem record_invariant (holds : σ → Prop) {members : List (GoString × Json)}
    (kept : ∀ member ∈ members, ∀ field ∈ fields, fold field.name = fold member.1 → ∀ value next,
      holds value → field.set value member.2 = some next → holds next) {old result : σ}
    (start : holds old) (decoded : record fold fields old (.object members) = some result) :
    holds result := by
  induction members generalizing old result with
  | nil =>
    cases decoded
    exact start
  | cons member members ih =>
    rw [record, List.foldlM_cons, Option.bind_eq_bind, Option.bind_eq_some_iff] at decoded
    have ⟨value, first, rest⟩ := decoded
    refine ih (fun other listed => kept other (List.mem_cons_of_mem _ listed)) ?_ rest
    split at first
    · cases first
      exact start
    · rename_i field found
      have ⟨listed, same⟩ := fieldOf_spec found
      exact kept member List.mem_cons_self field listed same old value start first

end Decoder

end Shuttle.Go
