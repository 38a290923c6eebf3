import Shuttle.Lib.Lists
import Shuttle.Server.Handler

/-!
# Revoking users

`server/admin/users.go` removes and disables accounts while the server runs. Both only shrink the
set of tokens that `Authenticate` knows. The handler authenticates streams only while the table
has an entry, so what it rejects shrinks as well when the last account is removed: from then on
every header is taken as a target.
-/

namespace Shuttle.Server

open Shuttle.Go Shuttle.Lib List Option

namespace UserStore

/-- Take a token's account out of the table; whether there was one. -/
def remove (store : UserStore) (token : GoString) : UserStore × Bool :=
  match store.users.lookup token with
  | none => (store, false)
  | some _ => (⟨store.users.filter fun entry => entry.1 ≠ token⟩, true)

/-- Enable or disable a token's account; whether there is one. -/
def setEnabled (store : UserStore) (token : GoString) (enabled : Bool) : UserStore × Bool :=
  match store.users.lookup token with
  | none => (store, false)
  | some _ =>
    (⟨store.users.map fun entry =>
      if entry.1 = token then (entry.1, { entry.2 with enabled := enabled }) else entry⟩, true)

end UserStore

inductive Revocation where
  | remove (token : GoString)
  | disable (token : GoString)

def Revocation.token : Revocation → GoString
  | .remove token => token
  | .disable token => token

namespace UserStore

variable (store : UserStore)

def revoke : Revocation → UserStore × Bool
  | .remove token => store.remove token
  | .disable token => store.setEnabled token false

def revokeAll (calls : List Revocation) : UserStore :=
  calls.foldl (fun store call => (store.revoke call).1) store

/-- One of the calls found the token's account and removed or disabled it. -/
def Revoked (calls : List Revocation) (token : GoString) : Prop :=
  ∃ before call after, calls = before ++ call :: after ∧ call.token = token ∧
    ((store.revokeAll before).revoke call).2 = true

end UserStore

def Handler.withUsers (handler : Handler) (store : UserStore) : Handler :=
  { handler with users := some store }

/-- A header has this text in front of its first colon. -/
def Presents (header token : GoString) : Prop :=
  ∃ position, indexByte header colon = some position ∧ header.take position = token

/-! ## The table -/

namespace UserStore

variable {store : UserStore}

theorem lookup_remove (token other : GoString) :
    (store.remove token).1.users.lookup other =
      if other = token then none else store.users.lookup other := by
  unfold remove
  cases found : store.users.lookup token with
  | none =>
    dsimp only
    split
    · rename_i same
      rw [same, found]
    · rfl
  | some user => exact lookup_filter_ne token other store.users

theorem lookup_setEnabled (token other : GoString) (enabled : Bool) :
    (store.setEnabled token enabled).1.users.lookup other =
      (store.users.lookup other).map fun user =>
        if other = token then { user with enabled := enabled } else user := by
  unfold setEnabled
  cases found : store.users.lookup token with
  | none =>
    by_cases same : other = token
    · rw [same, found, map_none]
    · simp only [if_neg same, Option.map_id']
  | some user =>
    dsimp only
    rw [← lookup_map_value fun (key : GoString) (user : UserState) =>
      if key = token then { user with enabled := enabled } else user]
    congr 2
    funext entry
    split <;> rfl

variable {token : GoString}

theorem revoke_authenticate (call : Revocation) (refused : store.authenticate token = none) :
    (store.revoke call).1.authenticate token = none := by
  unfold authenticate at refused ⊢
  cases call with
  | remove gone =>
    rw [revoke, lookup_remove]
    by_cases same : token = gone
    · rw [if_pos same]
    · rw [if_neg same]
      exact refused
  | disable off =>
    rw [revoke, lookup_setEnabled]
    cases found : store.users.lookup token with
    | none => rfl
    | some user =>
      rw [found] at refused
      rw [map_some]
      by_cases same : token = off
      · rw [if_pos same]
        rfl
      · rw [if_neg same]
        exact refused

theorem revokeAll_authenticate (calls : List Revocation) :
    ∀ {store : UserStore}, store.authenticate token = none →
      (store.revokeAll calls).authenticate token = none := by
  induction calls with
  | nil => exact id
  | cons call calls ih =>
    intro store refused
    exact ih (revoke_authenticate call refused)

theorem revoke_refuses (store : UserStore) (call : Revocation) :
    (store.revoke call).1.authenticate call.token = none := by
  unfold authenticate
  cases call with
  | remove token => rw [revoke, Revocation.token, lookup_remove, if_pos rfl]
  | disable token =>
    rw [revoke, Revocation.token, lookup_setEnabled]
    cases store.users.lookup token with
    | none => rfl
    | some user =>
      rw [map_some, if_pos rfl]
      rfl

theorem Revoked.refused {calls : List Revocation}
    (revoked : store.Revoked calls token) : (store.revokeAll calls).authenticate token = none := by
  have ⟨before, call, after, split, names, _⟩ := revoked
  have refused := revoke_refuses (store.revokeAll before) call
  rw [names] at refused
  rw [split, revokeAll, foldl_append]
  exact revokeAll_authenticate after refused

theorem revokeAll_hasUsers (calls : List Revocation) :
    ∀ {store : UserStore}, store.hasUsers = false → (store.revokeAll calls).hasUsers = false := by
  induction calls with
  | nil => exact id
  | cons call calls ih =>
    intro store empty
    apply ih
    have none : store.users = [] := by simpa [hasUsers] using empty
    cases call <;> simp [revoke, remove, setEnabled, hasUsers, none]

theorem Revoked.hasUsers {calls : List Revocation}
    (revoked : store.Revoked calls token) : store.hasUsers = true := by
  have ⟨before, call, after, split, names, found⟩ := revoked
  cases has : store.hasUsers with
  | true => rfl
  | false =>
    have empty : (store.revokeAll before).users = [] := by
      simpa [UserStore.hasUsers] using revokeAll_hasUsers before has
    cases call <;> simp [revoke, remove, setEnabled, empty] at found

end UserStore

/-! ## The handler -/

section Headers

variable {handler : Handler} {store : UserStore}

theorem authenticate_none_iff (has : store.hasUsers = true) (header : GoString) :
    (handler.withUsers store).authenticate header = none ↔
      ∀ position, indexByte header colon = some position → position ≠ 0 →
        store.authenticate (header.take position) = none := by
  unfold Handler.authenticate Handler.withUsers
  dsimp only
  rw [if_pos has]
  cases found : indexByte header colon with
  | none => exact ⟨fun _ position absent => (some_ne_none position absent.symm).elim,
      fun _ => rfl⟩
  | some position =>
    dsimp only
    by_cases first : position = 0
    · rw [if_pos first]
      refine ⟨fun _ other same nonzero => ?_, fun _ => rfl⟩
      rw [← Option.some.inj same] at nonzero
      exact absurd first nonzero
    · rw [if_neg first, map_eq_none_iff]
      refine ⟨fun refused other same _ => ?_, fun all => all position rfl first⟩
      rw [← Option.some.inj same]
      exact refused

theorem authenticate_unguarded (empty : store.hasUsers = false) (header : GoString) :
    (handler.withUsers store).authenticate header = some (header, none) := by
  unfold Handler.authenticate Handler.withUsers
  dsimp only
  rw [empty]
  rfl

end Headers

/-- Each header that was rejected, or has a token that the calls of `Remove` and `SetEnabled(token,
false)` removed or disabled, is rejected after the calls, exactly when they do not empty the table.
-/
theorem revocation_monotone_iff (handler : Handler) (store : UserStore) (calls : List Revocation) :
    ((∀ header, (handler.withUsers store).authenticate header = none →
        (handler.withUsers (store.revokeAll calls)).authenticate header = none) ∧
      ∀ token, store.Revoked calls token → ∀ header, Presents header token →
        (handler.withUsers (store.revokeAll calls)).authenticate header = none) ↔
      (store.hasUsers = true → (store.revokeAll calls).hasUsers = true) := by
  constructor
  · intro ⟨keeps, _⟩ has
    cases left : (store.revokeAll calls).hasUsers with
    | true => rfl
    | false =>
      -- The empty header carries no token and is a target once the table is empty.
      have rejected : (handler.withUsers store).authenticate [] = none :=
        (authenticate_none_iff has []).mpr fun position found _ => by cases found
      have after := keeps [] rejected
      rw [authenticate_unguarded left] at after
      cases after
  · intro stays
    refine ⟨fun header rejected => ?_, fun token revoked header presents => ?_⟩
    · cases has : store.hasUsers with
      | false =>
        rw [authenticate_unguarded has] at rejected
        cases rejected
      | true =>
        rw [authenticate_none_iff has] at rejected
        refine (authenticate_none_iff (stays has) header).mpr fun position found inner => ?_
        exact UserStore.revokeAll_authenticate calls (rejected position found inner)
    · refine (authenticate_none_iff (stays revoked.hasUsers) header).mpr fun other found _ => ?_
      have ⟨position, first, taken⟩ := presents
      rw [first] at found
      rw [← Option.some.inj found, taken]
      exact revoked.refused

def singleUser : UserStore := ⟨[(lit "alice", ⟨true, 0, 0, 0⟩)]⟩

/-- Removing the only user lets strangers in: `1.1.1.1:80` was rejected for its token and is
accepted as a target afterwards, and a header with the removed token is not rejected. -/
theorem last_removal_opens_server :
    (guardedHandler.withUsers singleUser).authenticate (lit "1.1.1.1:80") = none ∧
      ((guardedHandler.withUsers (singleUser.revokeAll [.remove (lit "alice")])).authenticate
        (lit "1.1.1.1:80")).map Prod.fst = some (lit "1.1.1.1:80") ∧
      singleUser.Revoked [.remove (lit "alice")] (lit "alice") ∧
      Presents (lit "alice:1.1.1.1:80") (lit "alice") ∧
      (guardedHandler.withUsers (singleUser.revokeAll [.remove (lit "alice")])).authenticate
        (lit "alice:1.1.1.1:80") ≠ none := by
  refine ⟨?_, ?_, ⟨[], .remove (lit "alice"), [], rfl, rfl, ?_⟩, ⟨5, ?_, ?_⟩, ?_⟩
  · refine isNone_iff_eq_none.mp ?_
    decide +kernel
  · decide +kernel
  · decide +kernel
  · decide +kernel
  · decide +kernel
  · refine isSome_iff_ne_none.mp ?_
    decide +kernel

end Shuttle.Server
