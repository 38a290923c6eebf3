import Shuttle.Server.Accounting

/-!
# Runs of the traffic accounting

A step keeps right counters right exactly when it counts what it relays: a move is checked against
the object that the token has now, a new object against the bytes already relayed for its token. So
the counters are right along a run exactly when every step counts right, and then they never
decrease.
-/

namespace Shuttle.Server.Traffic

open Shuttle.Go Shuttle.Lib Option

variable {traffic next : Traffic} {event : TrafficEvent} {stream : UserStream} {position : Nat}

/-! ## Which steps count right -/

theorem accounted_move_iff (sound : traffic.Sound) (accounted : traffic.Accounted)
    (found : traffic.streams[position]? = some stream)
    (relayed received sent : Nat) :
    (traffic.move position stream relayed received sent).Accounted ↔
      ¬traffic.Miscounts stream relayed (sent + received) := by
  constructor
  · intro after ⟨current, looked, differs⟩
    have ⟨account, present, _⟩ := sound.users _ _ looked
    have before := accounted stream.token account (by rw [accountOf, looked]; exact present)
    have next := after stream.token _ (by
      rw [accountOf_move, looked, bind_some, present]
      rfl)
    rw [relayed_move found, if_pos rfl] at next
    dsimp only at next
    by_cases own : current = stream.account
    · rw [if_pos own] at differs
      rw [if_pos own.symm, Account.totalBytes_count] at next
      omega
    · rw [if_neg own] at differs
      rw [if_neg (Ne.symm own)] at next
      omega
  · intro counts token account holds
    rw [accountOf_move] at holds
    have ⟨index, looked, mapped⟩ := bind_eq_some_iff.mp holds
    have ⟨old, present, changed⟩ := map_eq_some_iff.mp mapped
    have before := accounted token old (by rw [accountOf, looked]; exact present)
    rw [relayed_move found, ← changed]
    by_cases own : stream.token = token
    · rw [← own] at looked
      have right : (if index = stream.account then sent + received else 0) = relayed := by
        by_contra differs
        exact counts ⟨index, looked, differs⟩
      split
      · rename_i same
        rw [if_pos same.symm] at right
        rw [Account.totalBytes_count]
        omega
      · rename_i other
        rw [if_neg (Ne.symm other)] at right
        omega
    · have apart := sound.account_ne (List.mem_of_getElem? found) looked own
      rw [if_neg own, if_neg apart]
      omega

theorem accounted_append_iff (sound : traffic.Sound) (accounted : traffic.Accounted)
    (looked : traffic.users.lookup stream.token = some stream.account) :
    ({ traffic with streams := traffic.streams ++ [stream] } : Traffic).Accounted ↔
      ¬traffic.Miscounts stream stream.relayed 0 := by
  constructor
  · intro after ⟨current, found, differs⟩
    have ⟨account, present, _⟩ := sound.users _ _ looked
    have holds : traffic.accountOf stream.token = some account := by
      rw [accountOf, looked]
      exact present
    have next := after stream.token account holds
    rw [relayed_append, if_pos rfl, accounted stream.token account holds] at next
    have none : stream.relayed = 0 := by omega
    rw [none, ite_self] at differs
    exact differs rfl
  · intro counts token account holds
    rw [relayed_append, accounted token account holds]
    split
    · have none : stream.relayed = 0 := by
        by_contra given
        refine counts ⟨stream.account, looked, ?_⟩
        rw [ite_self]
        exact Ne.symm given
      omega
    · rfl

theorem accounted_create_iff (sound : traffic.Sound) (accounted : traffic.Accounted) (user : User) :
    (traffic.create user).Accounted ↔ ¬traffic.relayed user.token ≠ 0 := by
  constructor
  · intro after given
    have next := after user.token (.ofUser user) (by
      rw [accountOf_create user user.token sound, if_pos rfl])
    exact given next.symm
  · intro none token account holds
    rw [accountOf_create user token sound] at holds
    split at holds
    · rename_i same
      rw [← Option.some.inj holds, same]
      exact (not_not.mp none).symm
    · exact accounted token account holds

theorem accounted_replaceAll_iff (sound : traffic.Sound) (users : List User) :
    (traffic.replaceAll users).Accounted ↔ ¬∃ user ∈ users, traffic.relayed user.token ≠ 0 := by
  constructor
  · intro after ⟨user, listed, given⟩
    have ⟨starts, isSome⟩ := accountOf_replaceAll users sound user.token
    have ⟨account, holds⟩ := isSome_iff_exists.mp (isSome ⟨user, listed, rfl⟩)
    have next := after user.token account holds
    rw [relayed_replaceAll, (starts account holds).1] at next
    exact given next.symm
  · intro none token account holds
    have ⟨zero, user, listed, named⟩ :=
      (accountOf_replaceAll users sound token).1 account holds
    rw [relayed_replaceAll, zero, ← named]
    by_contra given
    exact none ⟨user, listed, Ne.symm given⟩

theorem relayed_ended
    (found : traffic.streams[position]? = some stream) (token : GoString) :
    ({ traffic with streams := traffic.streams.set position { stream with running := false } } :
      Traffic).relayed token = traffic.relayed token := by
  unfold Traffic.relayed
  rw [@sum_set_relayed stream { stream with running := false } position traffic.streams found rfl
    token 0 rfl, ite_self, Nat.add_zero]

theorem accountOf_remove (gone token : GoString) :
    (traffic.remove gone).accountOf token =
      if token = gone then none else traffic.accountOf token := by
  unfold accountOf Traffic.remove
  rw [lookup_filter_ne]
  split <;> rfl

theorem accountOf_setEnabled (changed token : GoString) (enabled : Bool) {account : Account}
    (holds : (traffic.setEnabled changed enabled).accountOf token = some account) :
    ∃ before, traffic.accountOf token = some before ∧ account.totalBytes = before.totalBytes := by
  unfold Traffic.setEnabled at holds
  split at holds
  · exact ⟨account, holds, rfl⟩
  have ⟨index, looked, modified⟩ := bind_eq_some_iff.mp holds
  rw [List.getElem?_modify] at modified
  have ⟨before, present, same⟩ := map_eq_some_iff.mp modified
  refine ⟨before, by rw [accountOf, looked]; exact present, ?_⟩
  rw [← same]
  split <;> rfl

theorem relayed_setEnabled (changed token : GoString) (enabled : Bool) :
    (traffic.setEnabled changed enabled).relayed token = traffic.relayed token := by
  unfold Traffic.setEnabled
  split <;> rfl

theorem step_stream {handler : Handler} {read : HeaderRead} {written : Nat}
    (stepped : traffic.step (.stream handler read written) = some next) :
    traffic.opened handler read written = none ∧ next = traffic ∨
      ∃ stream, traffic.opened handler read written = some stream ∧
        next = { traffic with streams := traffic.streams ++ [stream] } := by
  rw [Traffic.step] at stepped
  cases opened : traffic.opened handler read written with
  | none =>
    rw [opened] at stepped
    exact .inl ⟨rfl, (Option.some.inj stepped).symm⟩
  | some stream =>
    rw [opened] at stepped
    exact .inr ⟨stream, rfl, (Option.some.inj stepped).symm⟩

theorem Sound.step (sound : traffic.Sound)
    (stepped : traffic.step event = some next) : next.Sound := by
  cases event with
  | stream handler read written =>
    rcases step_stream stepped with ⟨_, same⟩ | ⟨stream, opened, same⟩
    · exact same ▸ sound
    rw [same]
    refine ⟨sound.users, fun other present => ?_⟩
    rcases List.mem_append.mp present with old | isNew
    · exact sound.streams other old
    · rw [List.mem_singleton.mp isNew]
      exact sound.users _ _ (opened_lookup opened)
  | up position taken delivered =>
    have ⟨_, moved⟩ := ite_none_right_eq_some.mp stepped
    have ⟨stream, running, same⟩ := map_eq_some_iff.mp moved
    exact same ▸ sound.move (running_some running) delivered taken 0
  | down position delivered =>
    have ⟨stream, running, same⟩ := map_eq_some_iff.mp stepped
    exact same ▸ sound.move (running_some running) delivered 0 delivered
  | datagram position length =>
    have ⟨stream, running, same⟩ := map_eq_some_iff.mp stepped
    exact same ▸ sound.move (running_some running) length 0 0
  | ended position =>
    have ⟨stream, found, same⟩ := map_eq_some_iff.mp stepped
    exact same ▸ sound.setStream found rfl rfl
  | add token maxBytes =>
    cases stepped
    exact sound.create _
  | remove token =>
    cases stepped
    refine sound.shrink fun other index found => ?_
    rw [lookup_filter_ne] at found
    split at found
    · cases found
    · exact found
  | setEnabled token enabled =>
    cases stepped
    unfold Traffic.setEnabled
    split
    · exact sound
    · exact sound.modify _ fun _ => rfl
  | replaceAll users =>
    cases stepped
    exact sound.replaceAll users

theorem accounted_step_iff (sound : traffic.Sound)
    (accounted : traffic.Accounted) (stepped : traffic.step event = some next) :
    next.Accounted ↔ ¬traffic.Uncounted event := by
  cases event with
  | stream handler read written =>
    rcases step_stream stepped with ⟨closed, same⟩ | ⟨stream, opened, same⟩
    · rw [same]
      refine ⟨fun _ ⟨stream, found, _⟩ => ?_, fun _ => accounted⟩
      exact some_ne_none stream (found.symm.trans closed)
    · rw [same, accounted_append_iff sound accounted (opened_lookup opened), Uncounted,
        exists_some_iff opened]
  | up position taken delivered =>
    have ⟨_, moved⟩ := ite_none_right_eq_some.mp stepped
    have ⟨stream, running, same⟩ := map_eq_some_iff.mp moved
    rw [← same, accounted_move_iff sound accounted (running_some running), Nat.zero_add, Uncounted,
      exists_some_iff running]
  | down position delivered =>
    have ⟨stream, running, same⟩ := map_eq_some_iff.mp stepped
    rw [← same, accounted_move_iff sound accounted (running_some running), Nat.add_zero, Uncounted,
      exists_some_iff running]
  | datagram position length =>
    have ⟨stream, running, same⟩ := map_eq_some_iff.mp stepped
    rw [← same, accounted_move_iff sound accounted (running_some running), Uncounted,
      exists_some_iff running]
  | ended position =>
    have ⟨stream, found, same⟩ := map_eq_some_iff.mp stepped
    refine ⟨fun _ => id, fun _ token account holds => ?_⟩
    rw [← same] at holds ⊢
    rw [relayed_ended found]
    exact accounted token account holds
  | add token maxBytes =>
    cases stepped
    exact accounted_create_iff sound accounted _
  | remove gone =>
    cases stepped
    refine ⟨fun _ => id, fun _ token account holds => ?_⟩
    rw [accountOf_remove] at holds
    split at holds
    · cases holds
    · exact accounted token account holds
  | setEnabled changed enabled =>
    cases stepped
    refine ⟨fun _ => id, fun _ token account holds => ?_⟩
    have ⟨before, held, same⟩ := accountOf_setEnabled changed token enabled holds
    rw [relayed_setEnabled, same]
    exact accounted token before held
  | replaceAll users =>
    cases stepped
    exact accounted_replaceAll_iff sound users

theorem relayed_step_le (stepped : traffic.step event = some next) (token : GoString) :
    traffic.relayed token ≤ next.relayed token := by
  cases event with
  | stream handler read written =>
    rcases step_stream stepped with ⟨_, same⟩ | ⟨stream, _, same⟩
    · rw [same]
    · rw [same, relayed_append]
      exact Nat.le_add_right _ _
  | up position taken delivered =>
    have ⟨_, moved⟩ := ite_none_right_eq_some.mp stepped
    have ⟨stream, running, same⟩ := map_eq_some_iff.mp moved
    rw [← same, relayed_move (running_some running)]
    exact Nat.le_add_right _ _
  | down position delivered | datagram position length =>
    have ⟨stream, running, same⟩ := map_eq_some_iff.mp stepped
    rw [← same, relayed_move (running_some running)]
    exact Nat.le_add_right _ _
  | ended position =>
    have ⟨stream, found, same⟩ := map_eq_some_iff.mp stepped
    rw [← same, relayed_ended found]
  | add token maxBytes | remove gone =>
    cases stepped
    exact Nat.le_refl _
  | setEnabled changed enabled =>
    cases stepped
    rw [relayed_setEnabled]
  | replaceAll users =>
    cases stepped
    rw [relayed_replaceAll]

/-! ## Whole runs -/

theorem never_falls (events : List TrafficEvent) :
    ∀ {traffic : Traffic}, machine.Always Accounted traffic events →
      machine.Never Falls traffic events := by
  induction events with
  | nil => exact fun _ => Machine.never_nil
  | cons event events ih =>
    intro traffic always
    have ⟨now, later⟩ := Machine.always_cons_iff.mp always
    refine Machine.never_cons_iff.mpr fun next stepped => ⟨?_, ih (later next stepped)⟩
    intro ⟨other, token, before, after, again, held, holds, falls⟩
    have same : other = next := Option.some.inj (again.symm.trans stepped)
    have still := later next stepped [] events next rfl rfl
    rw [now token before held, still token after (same ▸ holds)] at falls
    exact absurd falls (Nat.not_lt.mpr (relayed_step_le stepped token))

theorem newUserStore_sound (users : List User) :
    (newUserStore users).Sound ∧ (newUserStore users).Accounted := by
  have empty : (⟨[], [], []⟩ : Traffic).Sound :=
    ⟨fun _ _ found => (some_ne_none _ found.symm).elim,
      nofun⟩
  refine ⟨empty.replaceAll users, (accounted_replaceAll_iff empty users).mpr ?_⟩
  exact fun ⟨_, _, relayed⟩ => relayed rfl

/-- In every interleaving the counters of every configured user are the payload relayed on its
streams at all times, and never decrease while its token stays configured, exactly when no step
leaves bytes uncounted. -/
theorem traffic_accounted_iff (users : List User) (events : List TrafficEvent) :
    machine.Always Accounted (newUserStore users) events ∧
        machine.Never Falls (newUserStore users) events ↔
      machine.Never Uncounted (newUserStore users) events := by
  have ⟨sound, accounted⟩ := newUserStore_sound users
  have exactly := @Machine.always_iff_never Traffic TrafficEvent machine Sound Accounted Uncounted
    (fun sound accounted stepped =>
      ⟨sound.step stepped, accounted_step_iff sound accounted stepped⟩) events _ sound accounted
  exact ⟨fun both => exactly.mp both.1, fun never =>
    ⟨exactly.mpr never, never_falls events (exactly.mpr never)⟩⟩

def alice : User := ⟨lit "alice", 0, true⟩

def earlyBytes : TrafficEvent := .stream meshHandler ⟨lit "alice:1.1.1.1:80", lit "hi", []⟩ 2

def datagramStream : TrafficEvent := .stream meshHandler ⟨lit "alice:UDP:1.1.1.1:53", [], []⟩ 0

def quietStream : TrafficEvent := .stream meshHandler ⟨lit "alice:1.1.1.1:80", [], []⟩ 0

/-- Bytes that came with the header, datagrams, and bytes relayed on a stream that outlives a
`ReplaceAll` are not counted, and `ReplaceAll` decreases the counters of a token it keeps. -/
theorem traffic_uncounted :
    ¬machine.Always Accounted (newUserStore [alice]) [earlyBytes] ∧
      ¬machine.Always Accounted (newUserStore [alice]) [datagramStream, .datagram 0 100] ∧
      ¬machine.Always Accounted (newUserStore [alice])
        [quietStream, .replaceAll [alice], .up 0 7 7] ∧
      ¬machine.Never Falls (newUserStore [alice])
        [quietStream, .up 0 7 7, .replaceAll [alice]] := by
  refine ⟨fun always => ?_, fun always => ?_, fun always => ?_, fun never => ?_⟩
  · have counted := always _ [] _ (List.append_nil _).symm (rfl : _ = some _) (lit "alice") _ rfl
    exact absurd counted (by decide)
  · have counted := always _ [] _ (List.append_nil _).symm (rfl : _ = some _) (lit "alice") _ rfl
    exact absurd counted (by decide)
  · have counted := always _ [] _ (List.append_nil _).symm (rfl : _ = some _) (lit "alice") _ rfl
    exact absurd counted (by decide)
  · exact never [quietStream, .up 0 7 7] _ [] _ _ rfl (rfl : _ = some _) (rfl : _ = some _)
      ⟨_, lit "alice", _, _, rfl, rfl, rfl, by decide⟩

end Shuttle.Server.Traffic
