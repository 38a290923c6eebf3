import Shuttle.Router.Router

/-!
# Conflicting rules

`router/conflict.go` scans the domain, suffix and category rules and reports every name that a
later rule gives another action than the first rule that lists it. It drops a leading "+." from
the values of exact rules too, which the router does not do for its exact table: there "+" and
"+." are one key, while the scan takes them for two names.
-/

namespace Shuttle.Router

open Shuttle.Go List

structure Conflict where
  domain : GoString
  action1 : Action
  action2 : Action
  rule1 : GoString
  rule2 : GoString

structure SeenEntry where
  action : Action
  rule : GoString

structure ConflictScan where
  seen : GoMap GoString SeenEntry
  conflicts : List Conflict

section Code

variable (tables : UnicodeTables)

/-- A name without a leading "+.", a trailing dot and capitals. -/
def normalizeDomain (d : GoString) : GoString :=
  toLower tables (trimTail (trimLead d (lit "+.")) (lit "."))

/-- The names a rule lists and its description; none for rules the scan passes over. -/
def ruleDomains (geoSite : Option GeoSiteDB) (rule : Rule) : Option (List GoString × GoString) :=
  let listed := (lit ", ").intercalate rule.values
  match rule.type with
  | .domain => some (rule.values, lit "domain: " ++ listed)
  | .domainSuffix => some (rule.values, lit "domain-suffix: " ++ listed)
  | .geoSite =>
    let domains := match geoSite with
      | none => []
      | some sites => rule.values.flatMap sites.lookup
    some (domains, lit "geosite: " ++ listed)
  | _ => none

def noteDomain (action : Action) (ruleDesc : GoString) (scan : ConflictScan) (d : GoString) :
    ConflictScan :=
  let d := normalizeDomain tables d
  match scan.seen d with
  | some prev =>
    if prev.action ≠ action then
      { scan with
        conflicts := scan.conflicts ++ [⟨d, prev.action, action, prev.rule, ruleDesc⟩] }
    else scan
  | none => { scan with seen := scan.seen.set d ⟨action, ruleDesc⟩ }

def scanRule (geoSite : Option GeoSiteDB) (scan : ConflictScan) (rule : Rule) : ConflictScan :=
  match ruleDomains geoSite rule with
  | none => scan
  | some (domains, ruleDesc) => domains.foldl (noteDomain tables rule.action ruleDesc) scan

def detectConflicts (rules : List Rule) (geoSite : Option GeoSiteDB) : List Conflict :=
  (rules.foldl (scanRule tables geoSite) ⟨GoMap.empty, []⟩).conflicts

end Code

section Specification

variable (tables : UnicodeTables)

def Rule.entries (geoSite : Option GeoSiteDB) (rule : Rule) : List GoString :=
  match ruleDomains geoSite rule with
  | none => []
  | some (domains, _) => domains.map (normalizeDomain tables)

def assignments (geoSite : Option GeoSiteDB) (rules : List Rule) : List (GoString × Action) :=
  rules.flatMap fun rule => (rule.entries tables geoSite).map fun d => (d, rule.action)

/-- A rule whose values are keys of the exact table. -/
structure Rule.Exact (rule : Rule) : Prop where
  type : rule.type = .domain
  unbound : rule.networkType = []

structure ConflictScan.Tracks (scan : ConflictScan) (pairs : List (GoString × Action)) : Prop where
  seen : ∀ d, (scan.seen d).map SeenEntry.action =
    (pairs.find? fun pair => pair.1 == d).map Prod.snd
  reported : ∀ d, (∃ conflict ∈ scan.conflicts, conflict.domain = d) ↔
    ∃ left ∈ pairs, ∃ right ∈ pairs, left.1 = d ∧ right.1 = d ∧ left.2 ≠ right.2

end Specification

section Scan

variable {tables : UnicodeTables} {geoSite : Option GeoSiteDB} {scan : ConflictScan}
  {pairs : List (GoString × Action)}

theorem ConflictScan.Tracks.remembered (tracks : scan.Tracks pairs) (d : GoString) :
    (scan.seen d = none ∧ ∀ pair ∈ pairs, pair.1 ≠ d) ∨
      ∃ prev, scan.seen d = some prev ∧ (d, prev.action) ∈ pairs := by
  have same := tracks.seen d
  cases found : pairs.find? fun pair => pair.1 == d with
  | none =>
    rw [found, Option.map_none, Option.map_eq_none_iff] at same
    refine .inl ⟨same, ?_⟩
    intro pair listed
    simpa using List.find?_eq_none.mp found pair listed
  | some pair =>
    rw [found, Option.map_some, Option.map_eq_some_iff] at same
    have ⟨prev, stored, action⟩ := same
    have key : pair.1 = d := by simpa using List.find?_some found
    refine .inr ⟨prev, stored, ?_⟩
    rw [action, ← key]
    exact mem_of_find?_eq_some found

theorem two_actions_concat (pairs : List (GoString × Action)) (last : GoString × Action)
    (d : GoString) :
    (∃ left ∈ pairs ++ [last], ∃ right ∈ pairs ++ [last],
        left.1 = d ∧ right.1 = d ∧ left.2 ≠ right.2) ↔
      (∃ left ∈ pairs, ∃ right ∈ pairs, left.1 = d ∧ right.1 = d ∧ left.2 ≠ right.2) ∨
        last.1 = d ∧ ∃ left ∈ pairs, left.1 = d ∧ left.2 ≠ last.2 := by
  simp only [mem_append, mem_singleton]
  constructor
  · rintro ⟨left, leftBefore | rfl, right, rightBefore | rfl, leftKey, rightKey, differ⟩
    · exact .inl ⟨left, leftBefore, right, rightBefore, leftKey, rightKey, differ⟩
    · exact .inr ⟨rightKey, left, leftBefore, leftKey, differ⟩
    · exact .inr ⟨leftKey, right, rightBefore, rightKey, Ne.symm differ⟩
    · exact absurd rfl differ
  · rintro (⟨left, leftListed, right, rightListed, rest⟩ | ⟨key, left, listed, leftKey, differ⟩)
    · exact ⟨left, .inl leftListed, right, .inl rightListed, rest⟩
    · exact ⟨left, .inl listed, last, .inr rfl, leftKey, key, differ⟩

theorem find_concat_unlisted {name : GoString} (unlisted : ∀ pair ∈ pairs, pair.1 ≠ name)
    (action : Action) :
    (pairs ++ [(name, action)]).find? (fun pair => pair.1 == name) = some (name, action) := by
  have missing : pairs.find? (fun pair => pair.1 == name) = none := by
    rw [List.find?_eq_none]
    intro pair listed
    simpa using unlisted pair listed
  rw [List.find?_append, missing, Option.none_or, List.find?_cons, beq_self_eq_true]

theorem find_concat_other {name other : GoString} (action : Action)
    (known : other = name → ∃ pair ∈ pairs, pair.1 = name) :
    (pairs ++ [(name, action)]).find? (fun pair => pair.1 == other) =
      pairs.find? fun pair => pair.1 == other := by
  rw [List.find?_append]
  by_cases same : other = name
  · have ⟨pair, listed, key⟩ := known same
    have present : (pairs.find? fun pair => pair.1 == other).isSome := by
      rw [List.find?_isSome]
      exact ⟨pair, listed, by simp [same, key]⟩
    exact Option.or_of_isSome present
  · simp [Ne.symm same]

theorem ConflictScan.Tracks.noteDomain (tracks : scan.Tracks pairs) (tables : UnicodeTables)
    (action : Action) (ruleDesc d : GoString) :
    (Router.noteDomain tables action ruleDesc scan d).Tracks
      (pairs ++ [(normalizeDomain tables d, action)]) := by
  rw [Router.noteDomain]
  generalize normalizeDomain tables d = name
  rcases tracks.remembered name with ⟨fresh, unlisted⟩ | ⟨prev, stored, listed⟩
  · rw [fresh]
    constructor
    · intro other
      dsimp only
      unfold GoMap.set
      rw [Function.update_apply]
      by_cases same : other = name
      · rw [if_pos same, same, find_concat_unlisted unlisted]
        rfl
      · rw [if_neg same, tracks.seen other, find_concat_other action (absurd · same)]
    · intro other
      rw [two_actions_concat, ← tracks.reported other]
      constructor
      · exact .inl
      · rintro (known | ⟨key, left, listed, leftKey, _⟩)
        · exact known
        · exact absurd (leftKey.trans key.symm) (unlisted left listed)
  · rw [stored]
    dsimp only
    have unchanged : ∀ other, (scan.seen other).map SeenEntry.action =
        ((pairs ++ [(name, action)]).find? fun pair => pair.1 == other).map Prod.snd := by
      intro other
      rw [tracks.seen other, find_concat_other action fun _ => ⟨_, listed, rfl⟩]
    split
    · rename_i differs
      refine ⟨unchanged, ?_⟩
      intro other
      rw [two_actions_concat, ← tracks.reported other]
      constructor
      · rintro ⟨conflict, member, key⟩
        rcases mem_append.mp member with before | last
        · exact .inl ⟨conflict, before, key⟩
        · rw [mem_singleton.mp last] at key
          exact .inr ⟨key, _, listed, key, differs⟩
      · rintro (⟨conflict, member, key⟩ | ⟨key, _⟩)
        · exact ⟨conflict, mem_append_left _ member, key⟩
        · exact ⟨_, mem_append_right _ mem_cons_self, key⟩
    · rename_i agrees
      have same : prev.action = action := not_not.mp agrees
      refine ⟨unchanged, ?_⟩
      intro other
      rw [two_actions_concat, tracks.reported other]
      constructor
      · exact .inl
      · rintro (known | ⟨key, left, leftListed, leftKey, differs⟩)
        · exact known
        · refine ⟨left, leftListed, _, listed, leftKey, key, ?_⟩
          rw [same]
          exact differs

theorem ConflictScan.Tracks.noteDomains (tracks : scan.Tracks pairs) (tables : UnicodeTables)
    (action : Action) (ruleDesc : GoString) (domains : List GoString) :
    (domains.foldl (Router.noteDomain tables action ruleDesc) scan).Tracks
      (pairs ++ domains.map fun d => (normalizeDomain tables d, action)) := by
  induction domains generalizing scan pairs with
  | nil =>
    rw [map_nil, append_nil]
    exact tracks
  | cons d rest ih =>
    have later := ih (tracks.noteDomain tables action ruleDesc d)
    rw [append_assoc] at later
    exact later

theorem ConflictScan.Tracks.scanRules (tracks : scan.Tracks pairs) (rules : List Rule) :
    (rules.foldl (scanRule tables geoSite) scan).Tracks
      (pairs ++ assignments tables geoSite rules) := by
  induction rules generalizing scan pairs with
  | nil =>
    rw [assignments, flatMap_nil, append_nil]
    exact tracks
  | cons rule rest ih =>
    have one : (scanRule tables geoSite scan rule).Tracks
        (pairs ++ (rule.entries tables geoSite).map fun d => (d, rule.action)) := by
      rw [scanRule, Rule.entries]
      cases ruleDomains geoSite rule with
      | none =>
        rw [map_nil, append_nil]
        exact tracks
      | some found =>
        have noted := tracks.noteDomains tables rule.action found.2 found.1
        rw [map_map]
        exact noted
    have later := ih one
    rw [append_assoc] at later
    exact later

theorem scan_tracks (rules : List Rule) :
    (rules.foldl (scanRule tables geoSite) ⟨GoMap.empty, []⟩).Tracks
      (assignments tables geoSite rules) := by
  have start : ConflictScan.Tracks ⟨GoMap.empty, []⟩ [] := by
    constructor
    · intro d
      rfl
    · intro d
      exact iff_of_false nofun nofun
  exact start.scanRules rules

theorem mem_assignments {rules : List Rule} {d : GoString} {action : Action} :
    (d, action) ∈ assignments tables geoSite rules ↔
      ∃ rule ∈ rules, d ∈ rule.entries tables geoSite ∧ rule.action = action := by
  rw [assignments, mem_flatMap]
  constructor
  · rintro ⟨rule, member, listed⟩
    have ⟨entry, inside, same⟩ := mem_map.mp listed
    cases same
    exact ⟨rule, member, inside, rfl⟩
  · rintro ⟨rule, member, inside, rfl⟩
    exact ⟨rule, member, mem_map.mpr ⟨d, inside, rfl⟩⟩

theorem detectConflicts_reports (rules : List Rule) (d : GoString) :
    (∃ conflict ∈ detectConflicts tables rules geoSite, conflict.domain = d) ↔
      ∃ left ∈ rules, ∃ right ∈ rules, d ∈ left.entries tables geoSite ∧
        d ∈ right.entries tables geoSite ∧ left.action ≠ right.action := by
  rw [detectConflicts, (scan_tracks rules).reported d]
  constructor
  · rintro ⟨⟨_, leftAction⟩, leftListed, ⟨_, rightAction⟩, rightListed, rfl, rfl, differ⟩
    have ⟨left, leftMember, leftEntry, leftGives⟩ := mem_assignments.mp leftListed
    have ⟨right, rightMember, rightEntry, rightGives⟩ := mem_assignments.mp rightListed
    refine ⟨left, leftMember, right, rightMember, leftEntry, rightEntry, ?_⟩
    rw [leftGives, rightGives]
    exact differ
  · rintro ⟨left, leftMember, right, rightMember, leftEntry, rightEntry, differ⟩
    exact ⟨_, mem_assignments.mpr ⟨left, leftMember, leftEntry, rfl⟩,
      _, mem_assignments.mpr ⟨right, rightMember, rightEntry, rfl⟩, rfl, rfl, differ⟩

theorem consistent_of_no_conflict {rules : List Rule}
    (none : detectConflicts tables rules geoSite = []) :
    GoMap.Consistent (assignments tables geoSite rules) := by
  intro left leftListed right rightListed same
  by_contra differ
  have ⟨conflict, member, _⟩ := ((scan_tracks rules).reported left.1).mpr
    ⟨left, leftListed, right, rightListed, rfl, same.symm, differ⟩
  rw [detectConflicts] at none
  rw [none] at member
  cases member

end Scan

section Order

variable {tables : UnicodeTables} {geoSite : Option GeoSiteDB} {rules : List Rule} {rule : Rule}
  {v : GoString}

theorem Rule.entries_listed (type : rule.type = .domain ∨ rule.type = .domainSuffix) :
    rule.entries tables geoSite = rule.values.map (normalizeDomain tables) := by
  unfold Rule.entries ruleDomains
  rcases type with type | type <;> rw [type]

theorem Rule.entries_site (type : rule.type = .geoSite) (sites : GeoSiteDB) :
    rule.entries tables (some sites) =
      (rule.values.flatMap sites.lookup).map (normalizeDomain tables) := by
  unfold Rule.entries ruleDomains
  rw [type]

theorem suffixPairs_assigned {d : GoString} {action : Action}
    (stored : (d, action) ∈ rules.flatMap (Rule.suffixPairs geoSite)) :
    (normalizeDomain tables d, action) ∈ assignments tables geoSite rules := by
  have ⟨rule, member, listed⟩ := mem_flatMap.mp stored
  rw [mem_assignments]
  refine ⟨rule, member, ?_⟩
  unfold Rule.suffixPairs at listed
  split at listed
  · split at listed
    · rename_i type
      have ⟨value, inside, same⟩ := mem_map.mp listed
      cases same
      rw [Rule.entries_listed (.inr type)]
      exact ⟨mem_map.mpr ⟨d, inside, rfl⟩, rfl⟩
    · rename_i sites type
      have ⟨category, known, inside⟩ := mem_flatMap.mp listed
      have ⟨site, found, same⟩ := mem_map.mp inside
      cases same
      rw [Rule.entries_site type]
      exact ⟨mem_map.mpr ⟨d, mem_flatMap.mpr ⟨category, known, found⟩, rfl⟩, rfl⟩
    · cases listed
  · cases listed

theorem mem_exactPairs {key : GoString} {action : Action} :
    (key, action) ∈ rules.flatMap (Rule.pairs (domainKey tables) .domain) ↔
      ∃ rule ∈ rules, rule.Exact ∧ rule.action = action ∧
        ∃ v ∈ rule.values, domainKey tables v = key := by
  rw [mem_flatMap]
  constructor
  · rintro ⟨rule, member, listed⟩
    unfold Rule.pairs at listed
    split at listed
    · rename_i exact
      have ⟨v, inside, same⟩ := mem_map.mp listed
      cases same
      exact ⟨rule, member, ⟨exact.2, exact.1⟩, rfl, v, inside, rfl⟩
    · cases listed
  · rintro ⟨rule, member, exact, rfl, v, inside, rfl⟩
    refine ⟨rule, member, ?_⟩
    unfold Rule.pairs
    rw [if_pos ⟨exact.unbound, exact.type⟩]
    exact mem_map.mpr ⟨v, inside, rfl⟩

theorem exact_assigned (member : rule ∈ rules) (exact : rule.Exact) (inside : v ∈ rule.values) :
    (normalizeDomain tables v, rule.action) ∈ assignments tables geoSite rules := by
  rw [mem_assignments]
  refine ⟨rule, member, ?_, rfl⟩
  rw [Rule.entries_listed (.inl exact.type)]
  exact mem_map.mpr ⟨v, inside, rfl⟩

theorem normalizeDomain_of_key (runewise : tables.Runewise) (apart : v ≠ lit "+.") :
    normalizeDomain tables v = trimLead (domainKey tables v) (lit "+.") := by
  rw [domainKey, runewise.trimLead_toLower, trimLead_trimTail apart]
  rfl

theorem domainKey_plus (runewise : tables.Runewise)
    (key : domainKey tables v = lit "+") : v = lit "+" ∨ v = lit "+." := by
  have ⟨tail, first, rest⟩ := runewise.of_toLower_cons (by decide) (by decide) key
  rw [runewise.toLower_eq_nil rest] at first
  by_cases ends : lit "." <:+ v
  · have ⟨before, joined⟩ := ends
    rw [← joined, trimTail_append] at first
    rw [← joined, first]
    exact .inr rfl
  · rw [trimTail_of_not ends] at first
    exact .inl first

theorem plus_of_same_key (runewise : tables.Runewise) {w : GoString}
    (same : domainKey tables w = domainKey tables v)
    (apart : normalizeDomain tables v ≠ normalizeDomain tables w) :
    v = lit "+" ∧ w = lit "+." ∨ v = lit "+." ∧ w = lit "+" := by
  by_cases dotted : v = lit "+."
  · subst dotted
    rcases domainKey_plus runewise same with plain | rfl
    · exact .inr ⟨rfl, plain⟩
    · exact absurd rfl apart
  · by_cases other : w = lit "+."
    · subst other
      rcases domainKey_plus runewise same.symm with plain | also
      · exact .inl ⟨plain, rfl⟩
      · exact absurd also dotted
    · rw [normalizeDomain_of_key runewise dotted, normalizeDomain_of_key runewise other,
        same] at apart
      exact absurd rfl apart

/-- No two exact rules that list "+" and "+." differ in their action. -/
def PlusAgrees (rules : List Rule) : Prop :=
  ∀ left ∈ rules, ∀ right ∈ rules, left.Exact → right.Exact → lit "+" ∈ left.values →
    lit "+." ∈ right.values → left.action = right.action

theorem exactPairs_consistent (runewise : tables.Runewise)
    (assigned : GoMap.Consistent (assignments tables geoSite rules)) (agrees : PlusAgrees rules) :
    GoMap.Consistent (rules.flatMap (Rule.pairs (domainKey tables) .domain)) := by
  rintro ⟨key, leftAction⟩ leftStored ⟨_, rightAction⟩ rightStored rfl
  obtain ⟨left, leftMember, leftExact, rfl, v, leftInside, rfl⟩ := mem_exactPairs.mp leftStored
  obtain ⟨right, rightMember, rightExact, rfl, w, rightInside, same⟩ :=
    mem_exactPairs.mp rightStored
  by_cases names : normalizeDomain tables v = normalizeDomain tables w
  · have byName := assigned _ (exact_assigned leftMember leftExact leftInside) _
      (exact_assigned rightMember rightExact rightInside) names
    exact byName
  · rcases plus_of_same_key runewise same names with ⟨rfl, rfl⟩ | ⟨rfl, rfl⟩
    · exact agrees left leftMember right rightMember leftExact rightExact leftInside rightInside
    · exact (agrees right rightMember left leftMember rightExact leftExact rightInside
        leftInside).symm

theorem paths_consistent (assigned : GoMap.Consistent (assignments tables geoSite rules)) :
    GoMap.Consistent (DomainTrie.paths tables (rules.flatMap (Rule.suffixPairs geoSite))) := by
  intro left leftStored right rightStored same
  have ⟨⟨d, leftAction⟩, leftListed, leftPath⟩ := mem_map.mp leftStored
  have ⟨⟨e, rightAction⟩, rightListed, rightPath⟩ := mem_map.mp rightStored
  subst leftPath rightPath
  have labels : splitByte dot (normalizeDomain tables d) =
      splitByte dot (normalizeDomain tables e) := reverse_injective same
  exact assigned _ (suffixPairs_assigned leftListed) _ (suffixPairs_assigned rightListed)
    (splitByte_injective dot labels)

theorem decidedDomain_perm {first second : List Rule}
    (exact : GoMap.Consistent (first.flatMap (Rule.pairs (domainKey tables) .domain)))
    (suffixes : GoMap.Consistent
      (DomainTrie.paths tables (first.flatMap (Rule.suffixPairs geoSite))))
    (shuffled : first.Perm second) (domain : GoString) :
    decidedDomain tables first geoSite domain = decidedDomain tables second geoSite domain := by
  rw [decidedDomain, exact.ofList_perm (shuffled.flatMap_right _),
    suffixes.ofList_perm ((shuffled.flatMap_right _).map _)]
  rfl

theorem decidedDomain_last (rules : List Rule) (exact : rule.Exact)
    (inside : v ∈ rule.values) (key : domainKey tables v = lit "+") :
    decidedDomain tables (rules ++ [rule]) geoSite (lit "+") = some rule.action := by
  have plus : domainKey tables (lit "+") = lit "+" := rfl
  have stored : rule.pairs (domainKey tables) .domain =
      rule.values.map fun v => (domainKey tables v, rule.action) :=
    if_pos ⟨exact.unbound, exact.type⟩
  have last : GoMap.ofList ((rules ++ [rule]).flatMap (Rule.pairs (domainKey tables) .domain))
      (lit "+") = some rule.action := by
    rw [flatMap_append, GoMap.ofList_append, flatMap_singleton, stored]
    apply GoMap.setAll_of_mem
    · exact mem_map.mpr ⟨v, inside, by rw [key]⟩
    · intro pair member _
      have ⟨_, _, same⟩ := mem_map.mp member
      rw [← same]
  rw [decidedDomain, plus, last]
  rfl

theorem exists_perm_last (member : rule ∈ rules) : ∃ others, (others ++ [rule]).Perm rules := by
  have ⟨before, after, split⟩ := append_of_mem member
  refine ⟨before ++ after, ?_⟩
  rw [split, append_assoc]
  exact (perm_append_singleton rule after).append_left before

end Order

/-- The scan reports a name exactly when two of the rules that list it, spelling aside, give it
different actions; and if it reports nothing, the routers of all orders of the rules decide every
name alike if and only if no two exact rules, one listing "+" and one "+.", give different actions.
-/
theorem conflicts_complete_iff_plus_agrees (tables : UnicodeTables) (runewise : tables.Runewise)
    (rules : List Rule) (geoSite : Option GeoSiteDB) :
    (∀ domain, (∃ conflict ∈ detectConflicts tables rules geoSite, conflict.domain = domain) ↔
      ∃ left ∈ rules, ∃ right ∈ rules, domain ∈ left.entries tables geoSite ∧
        domain ∈ right.entries tables geoSite ∧ left.action ≠ right.action) ∧
    (detectConflicts tables rules geoSite = [] →
      ((∀ ruleChain defaultAction geoIP first second, first.Perm rules → second.Perm rules →
          ∀ domain, (newRouter tables ⟨ruleChain, first, defaultAction⟩ geoIP geoSite).matchDomain
              tables domain =
            (newRouter tables ⟨ruleChain, second, defaultAction⟩ geoIP geoSite).matchDomain
              tables domain) ↔
        PlusAgrees rules)) := by
  refine ⟨detectConflicts_reports rules, ?_⟩
  intro none
  constructor
  · intro alike left leftMember right rightMember leftExact rightExact plain dotted
    have ⟨leftOthers, leftLast⟩ := exists_perm_last leftMember
    have ⟨rightOthers, rightLast⟩ := exists_perm_last rightMember
    have same := alike [] [] Option.none _ _ leftLast rightLast (lit "+")
    rw [newRouter_matchDomain, newRouter_matchDomain, decidedDomain_last _ leftExact plain rfl,
      decidedDomain_last _ rightExact dotted rfl] at same
    exact same
  · intro agrees ruleChain defaultAction geoIP first second firstOrder secondOrder domain
    have assigned := consistent_of_no_conflict none
    have same : decidedDomain tables first geoSite domain =
        decidedDomain tables second geoSite domain := by
      have ordered : ∀ {order : List Rule}, order.Perm rules →
          decidedDomain tables rules geoSite domain =
            decidedDomain tables order geoSite domain := fun shuffled =>
        decidedDomain_perm (exactPairs_consistent runewise assigned agrees)
          (paths_consistent assigned) shuffled.symm domain
      rw [← ordered firstOrder, ← ordered secondOrder]
    rw [newRouter_matchDomain, newRouter_matchDomain, same]

def nestedRules : List Rule :=
  [⟨.domain, [lit "www.example.com"], actionDirect, []⟩,
    ⟨.domainSuffix, [lit "Example.com."], actionProxy, []⟩]

theorem nestedRules_any_order :
    detectConflicts bytewiseTables nestedRules none = [] ∧
      (newRouter bytewiseTables ⟨[], nestedRules, []⟩ none none).matchDomain bytewiseTables
          (lit "www.example.com") =
        (newRouter bytewiseTables ⟨[], nestedRules.reverse, []⟩ none none).matchDomain
          bytewiseTables (lit "www.example.com") := by
  have quiet : detectConflicts bytewiseTables nestedRules none = [] := by decide +kernel
  have agrees : PlusAgrees nestedRules := by
    intro left leftMember right _ _ _ listed _
    have unlisted : ∀ rule ∈ nestedRules, lit "+" ∉ rule.values := by decide +kernel
    exact absurd listed (unlisted left leftMember)
  have alike := ((conflicts_complete_iff_plus_agrees bytewiseTables bytewiseTables_runewise
    nestedRules none).2 quiet).mpr agrees
  exact ⟨quiet, alike [] [] none nestedRules nestedRules.reverse (List.Perm.refl _)
    (reverse_perm _) (lit "www.example.com")⟩

def plusRules : List Rule :=
  [⟨.domain, [lit "+"], actionProxy, []⟩, ⟨.domain, [lit "+."], actionDirect, []⟩]

/-- The scan reports nothing, and the later rule decides. -/
theorem plusRules_order_matters :
    detectConflicts bytewiseTables plusRules none = [] ∧
      (newRouter bytewiseTables ⟨[], plusRules, []⟩ none none).matchDomain bytewiseTables
          (lit "+") = actionDirect ∧
      (newRouter bytewiseTables ⟨[], plusRules.reverse, []⟩ none none).matchDomain bytewiseTables
          (lit "+") = actionProxy := by
  decide +kernel

end Shuttle.Router
