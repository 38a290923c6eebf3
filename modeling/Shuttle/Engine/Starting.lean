import Shuttle.Go.Text

/-!
# A start that fails

`startInternal` starts the selector, builds the plugin chain and hands over to `startInbounds`,
which creates the outbounds in two passes and starts the inbounds. An error of the outbounds returns
before `cleanup` exists; `cleanup` knows neither an outbound that another one replaced under its tag
nor the inbound whose `Start` failed.
-/

namespace Shuttle.Starting

open Shuttle.Go

inductive OutboundConfig where
  | single (tag : GoString) (creates : Bool)
  | group (tag : GoString) (parses : Bool) (members : List GoString) (urlTest : Bool)

def OutboundConfig.tag : OutboundConfig → GoString
  | single tag _ | group tag .. => tag

def OutboundConfig.isGroup : OutboundConfig → Bool
  | single .. => false
  | group .. => true

structure InboundConfig where
  creates : Bool
  starts : Bool

structure StartConfig where
  valid : Bool
  transports : Bool
  chain : Bool
  mesh : Bool
  outbounds : List OutboundConfig
  inbounds : List InboundConfig

structure Live where
  selector : Bool
  chain : Bool
  outbounds : List GoString
  /-- Outbounds that another one replaced in the map. -/
  replaced : List GoString
  inbounds : Nat
  urlTests : Nat
deriving DecidableEq

def Live.nothing : Live := ⟨false, false, [], [], 0, 0⟩

def Live.put (live : Live) (tag : GoString) : Live :=
  if live.outbounds.any (· = tag) then { live with replaced := tag :: live.replaced }
  else { live with outbounds := tag :: live.outbounds }

def firstPass : List OutboundConfig → Live → Bool × Live
  | [], live => (true, live)
  | .single tag creates :: rest, live =>
    if creates then firstPass rest (live.put tag) else (false, live)
  | .group .. :: rest, live => firstPass rest live

/-- The second pass: a group needs its members in the map, and may start its url-test loop. -/
def secondPass : List OutboundConfig → Live → Bool × Live
  | [], live => (true, live)
  | .single .. :: rest, live => secondPass rest live
  | .group tag parses members urlTest :: rest, live =>
    if parses && members.all fun member => live.outbounds.any (· = member) then
      secondPass rest { live.put tag with urlTests := live.urlTests + urlTest.toNat }
    else (false, live)

/-- `cleanup`: close what is in the map and the inbounds started. -/
def cleanup (live : Live) : Live := { live with outbounds := [], inbounds := 0 }

def startListeners : List InboundConfig → Live → Bool × Live
  | [], live => (true, live)
  | inbound :: rest, live =>
    if inbound.creates then
      if inbound.starts then startListeners rest { live with inbounds := live.inbounds + 1 }
      else (false, { cleanup live with inbounds := 1 })
    else (false, cleanup live)

variable (config : StartConfig)

def builtinTags : List GoString :=
  [lit "direct", lit "reject", lit "proxy"] ++ if config.mesh then [lit "mesh"] else []

def buildOutbounds (live : Live) : Bool × Live :=
  match firstPass config.outbounds ((builtinTags config).foldl Live.put live) with
  | (true, live) => secondPass config.outbounds live
  | failed => failed

def startInbounds (live : Live) : Bool × Live :=
  match buildOutbounds config live with
  | (true, live) => startListeners config.inbounds live
  | failed => failed

/-- The exit `fail`: it cancels the context, under which the url-test loops run. -/
def fail (live : Live) : Bool × Live := (false, { live with urlTests := 0 })

/-- `startInternal` from a stopped engine: whether it succeeds, and what runs afterwards. -/
def attempt : Bool × Live :=
  if !config.valid || !config.transports then fail .nothing
  else if !config.chain then fail { Live.nothing with selector := true }
  else
    match startInbounds config { Live.nothing with selector := true, chain := true } with
    | (true, live) => (true, live)
    | (false, live) => fail { live with selector := false, chain := false }

structure Engine where
  running : Bool
  starts : List Live
deriving DecidableEq

def startInternal (engine : Engine) (config : StartConfig) : Bool × Engine :=
  if engine.running then (false, engine)
  else ((attempt config).1, ⟨(attempt config).1, engine.starts ++ [(attempt config).2]⟩)

/-- The first inbound that does not come up fails when it is created. -/
def CreationFails : List InboundConfig → Prop
  | [] => False
  | inbound :: rest => inbound.creates = false ∨ inbound.starts = true ∧ CreationFails rest

def singleTags (configs : List OutboundConfig) : List GoString :=
  (configs.filter (!·.isGroup)).map OutboundConfig.tag

def groupTags (configs : List OutboundConfig) : List GoString :=
  (configs.filter (·.isGroup)).map OutboundConfig.tag

/-- Each group parses, and has its members among the tags known before it. -/
def Finds (known : List GoString) : List OutboundConfig → Prop
  | [] => True
  | .single .. :: rest => Finds known rest
  | .group tag parses members _ :: rest =>
    parses = true ∧ members ⊆ known ∧ Finds (tag :: known) rest

/-- The failures that release everything: at the configuration, or at the creation of an inbound
with all outbounds built under tags of their own. -/
def Clean : Prop :=
  config.valid = false ∨ config.transports = false ∨
    config.chain = true ∧ CreationFails config.inbounds ∧
      (∀ tag, .single tag false ∉ config.outbounds) ∧
      Finds (singleTags config.outbounds ++ builtinTags config) config.outbounds ∧
      (builtinTags config ++ config.outbounds.map OutboundConfig.tag).Nodup

variable {live : Live}

theorem mem_put {tag other : GoString} :
    other ∈ (live.put tag).outbounds ↔ other = tag ∨ other ∈ live.outbounds := by
  unfold Live.put
  split
  · rename_i inside
    have listed : tag ∈ live.outbounds := by simpa using inside
    exact ⟨.inr, fun either => either.elim (· ▸ listed) id⟩
  · exact List.mem_cons

theorem mem_puts (tags : List GoString) {other : GoString} :
    other ∈ (tags.foldl Live.put live).outbounds ↔ other ∈ tags ∨ other ∈ live.outbounds := by
  induction tags generalizing live with
  | nil => simp
  | cons tag rest ih => rw [List.foldl_cons, ih, mem_put, List.mem_cons, or_left_comm, or_assoc]

theorem puts_replaced (tags : List GoString) (apart : live.outbounds.Nodup) :
    (tags.foldl Live.put live).replaced = [] ↔
      live.replaced = [] ∧ (live.outbounds ++ tags).Nodup := by
  induction tags generalizing live with
  | nil => simp [apart]
  | cons tag rest ih =>
    rw [List.foldl_cons, List.perm_middle.nodup_iff]
    by_cases inside : tag ∈ live.outbounds
    · have known : live.put tag = { live with replaced := tag :: live.replaced } :=
        if_pos (by simpa using inside)
      have replaced := @ih { live with replaced := tag :: live.replaced } apart
      simp [known, replaced, inside]
    · have fresh : live.put tag = { live with outbounds := tag :: live.outbounds } :=
        if_neg (by simpa using inside)
      rw [fresh]
      exact ih (List.nodup_cons.mpr ⟨inside, apart⟩)

theorem puts_urlTests (tags : List GoString) (loops : Nat) :
    tags.foldl Live.put { live with urlTests := loops } =
      { tags.foldl Live.put live with urlTests := loops } := by
  induction tags generalizing live with
  | nil => rfl
  | cons tag rest ih =>
    rw [List.foldl_cons, List.foldl_cons, ← ih]
    congr 1
    simp only [Live.put]
    split <;> rfl

/-- The first pass, whether it succeeds or not, has put a part of the tags of single outbounds. -/
theorem firstPass_eq (configs : List OutboundConfig) (live : Live) :
    ∃ tags, (firstPass configs live).2 = tags.foldl Live.put live ∧
      ((firstPass configs live).1 = true ↔ ∀ tag, .single tag false ∉ configs) ∧
      ((firstPass configs live).1 = true → tags = singleTags configs) := by
  fun_induction firstPass configs live with
  | case1 live => exact ⟨[], rfl, by simp, fun _ => rfl⟩
  | case2 tag rest live ih =>
    have ⟨tags, put, built, all⟩ := ih
    refine ⟨tag :: tags, put, built.trans (by simp), fun done => ?_⟩
    rw [all done]
    rfl
  | case3 tag creates rest live fails =>
    have named : creates = false := by simpa using fails
    exact ⟨[], rfl, iff_of_false nofun fun none => none tag (by simp [named]), nofun⟩
  | case4 tag parses members urlTest rest live ih =>
    have ⟨tags, put, built, all⟩ := ih
    exact ⟨tags, put, built.trans (by simp), all⟩

/-- The second pass in the same way, with the tags of groups. -/
theorem secondPass_eq (configs : List OutboundConfig) (live : Live) :
    ∃ tags loops,
      (secondPass configs live).2 = { tags.foldl Live.put live with urlTests := loops } ∧
      (∀ known, (∀ tag, tag ∈ known ↔ tag ∈ live.outbounds) →
        ((secondPass configs live).1 = true ↔ Finds known configs)) ∧
      ((secondPass configs live).1 = true → tags = groupTags configs) := by
  fun_induction secondPass configs live with
  | case1 live => exact ⟨[], _, rfl, fun _ _ => by simp [Finds], fun _ => rfl⟩
  | case2 tag creates rest live ih => exact ih
  | case3 tag parses members urlTest rest live found ih =>
    have ⟨tags, loops, put, built, all⟩ := ih
    rw [puts_urlTests] at put
    simp only [Bool.and_eq_true, List.all_eq_true, List.any_eq_true, decide_eq_true_eq,
      exists_eq_right] at found
    refine ⟨tag :: tags, loops, put, fun known same => ?_, fun done => ?_⟩
    · rw [built (tag :: known) (by simp [mem_put, same]), Finds, found.1]
      have listed : members ⊆ known := fun member used => (same member).mpr (found.2 member used)
      simp [listed]
    · rw [all done]
      rfl
  | case4 tag parses members urlTest rest live missing =>
    refine ⟨[], _, rfl, fun known same => iff_of_false nofun fun finds => missing ?_, nofun⟩
    have ⟨parsed, listed, _⟩ := finds
    simp only [parsed, Bool.true_and, List.all_eq_true, List.any_eq_true, decide_eq_true_eq,
      exists_eq_right]
    exact fun member used => (same member).mp (listed used)

theorem tags_perm (configs : List OutboundConfig) :
    (singleTags configs ++ groupTags configs).Perm (configs.map OutboundConfig.tag) := by
  have parts := List.filter_append_perm (!·.isGroup) configs
  simp only [Bool.not_not] at parts
  rw [singleTags, groupTags, ← List.map_append]
  exact parts.map _

/-- The outbounds that are built, all or not: something is put, and when all are, and none twice. -/
theorem buildOutbounds_eq (config : StartConfig) (live : Live) (empty : live.outbounds = []) :
    (buildOutbounds config live).2.outbounds ≠ [] ∧
    ((buildOutbounds config live).1 = true ↔ (∀ tag, .single tag false ∉ config.outbounds) ∧
      Finds (singleTags config.outbounds ++ builtinTags config) config.outbounds) ∧
    ((buildOutbounds config live).1 = true →
      ((buildOutbounds config live).2.replaced = [] ↔ live.replaced = [] ∧
        (builtinTags config ++ config.outbounds.map OutboundConfig.tag).Nodup)) := by
  have ⟨singles, first, created, allSingles⟩ :=
    firstPass_eq config.outbounds ((builtinTags config).foldl Live.put live)
  unfold buildOutbounds
  rcases pass : firstPass config.outbounds ((builtinTags config).foldl Live.put live) with
    ⟨ok, next⟩
  rw [pass] at first created allSingles
  replace first : next = singles.foldl Live.put ((builtinTags config).foldl Live.put live) := first
  have kept (tags : List GoString) : lit "direct" ∈ (tags.foldl Live.put next).outbounds := by
    rw [mem_puts, first, mem_puts, mem_puts]
    exact .inr (.inr (.inl List.mem_cons_self))
  cases ok with
  | false =>
    refine ⟨List.ne_nil_of_mem (kept []), iff_of_false nofun fun both => ?_, nofun⟩
    cases created.mpr both.1
  | true =>
    have ⟨groups, loops, second, found, allGroups⟩ := secondPass_eq config.outbounds next
    dsimp only
    rw [second]
    refine ⟨List.ne_nil_of_mem (kept groups), ?_, fun done => ?_⟩
    · rw [found (singleTags config.outbounds ++ builtinTags config)
        fun tag => by simp [first, allSingles, mem_puts, empty]]
      exact (and_iff_right (created.mp rfl)).symm
    · have all : groups.foldl Live.put next =
          (builtinTags config ++ (singleTags config.outbounds ++
            groupTags config.outbounds)).foldl Live.put live := by
        rw [allGroups done, first, allSingles rfl, List.foldl_append, List.foldl_append]
      have tags := (tags_perm config.outbounds).append_left (builtinTags config)
      rw [all, ← tags.nodup_iff, puts_replaced _ (empty ▸ List.nodup_nil), empty, List.nil_append]

theorem startListeners_failed {inbounds : List InboundConfig} {final : Live}
    (failed : startListeners inbounds live = (false, final)) :
    final.outbounds = [] ∧ final.replaced = live.replaced ∧
      (final.inbounds = 0 ↔ CreationFails inbounds) := by
  fun_induction startListeners inbounds live with
  | case1 => cases failed
  | case2 live inbound rest creates starts ih => simp [CreationFails, creates, starts, ih failed]
  | case3 live inbound rest creates starts =>
    cases failed
    simp [CreationFails, creates, starts, cleanup]
  | case4 live inbound rest creates =>
    cases failed
    simp [CreationFails, creates, cleanup]

theorem attempt_failed {config : StartConfig} (failed : (attempt config).1 = false) :
    (attempt config).2.urlTests = 0 ∧ ((attempt config).2 = .nothing ↔ Clean config) := by
  by_cases early : config.valid = false ∨ config.transports = false
  · have result : attempt config = fail .nothing := by
      rcases early with invalid | bare <;> simp [attempt, *]
    rw [result]
    exact ⟨rfl, iff_of_true rfl (early.imp_right .inl)⟩
  · have ⟨valid, transports⟩ : config.valid = true ∧ config.transports = true := by
      simpa using early
    cases chain : config.chain with
    | false => simp [attempt, fail, valid, transports, chain, Clean, Live.nothing]
    | true =>
      have ⟨solid, complete, apart⟩ := buildOutbounds_eq config ⟨true, true, [], [], 0, 0⟩ rfl
      cases built : buildOutbounds config ⟨true, true, [], [], 0, 0⟩ with
      | mk ok live =>
        rw [built] at solid complete apart
        cases ok with
        | false =>
          have incomplete := mt complete.mpr nofun
          have left : attempt config = fail { live with selector := false, chain := false } := by
            simp [attempt, startInbounds, valid, transports, chain, Live.nothing, built]
          rw [left]
          refine ⟨rfl, iff_of_false (fun same => solid (congrArg Live.outbounds same)) ?_⟩
          rintro (invalid | bare | ⟨_, _, creates, finds, _⟩)
          · cases valid.symm.trans invalid
          · cases transports.symm.trans bare
          · exact incomplete ⟨creates, finds⟩
        | true =>
          have whole := complete.mp rfl
          cases started : startListeners config.inbounds live with
          | mk ok final =>
            cases ok with
            | true =>
              simp [attempt, startInbounds, valid, transports, chain, Live.nothing, built,
                started] at failed
            | false =>
              have ⟨closed, same, atCreation⟩ := startListeners_failed started
              simp [attempt, startInbounds, fail, valid, transports, chain, Clean, Live.nothing,
                built, started, closed, same, atCreation, apart, whole.1, whole.2, and_comm]

/-- A start that fails leaves the engine stopped and no url-test loop, and a later start succeeds;
it leaves nothing else running exactly when it fails early, or at the creation of an inbound with
all outbounds built under tags of their own. -/
theorem failed_start_releases_iff (engine : Engine) (stopped : engine.running = false)
    (config : StartConfig) (failed : (startInternal engine config).1 = false) :
    ∃ live, (startInternal engine config).2 = ⟨false, engine.starts ++ [live]⟩ ∧
      live.urlTests = 0 ∧ (live = .nothing ↔ Clean config) ∧
      ∀ good, (attempt good).1 = true →
        (startInternal (startInternal engine config).2 good).1 = true := by
  have result : startInternal engine config =
      ((attempt config).1, ⟨(attempt config).1, engine.starts ++ [(attempt config).2]⟩) := by
    rw [startInternal, stopped, if_neg Bool.false_ne_true]
  rw [result] at failed ⊢
  replace failed : (attempt config).1 = false := failed
  have ⟨loops, nothing⟩ := attempt_failed failed
  refine ⟨(attempt config).2, by rw [failed], loops, nothing, fun good succeeds => ?_⟩
  simp [startInternal, failed, succeeds]

def lateConfig : StartConfig :=
  ⟨true, true, true, true, [.single (lit "ss") true, .group (lit "auto") true [lit "ss"] true],
    [⟨true, true⟩, ⟨false, true⟩]⟩

/-- The outbounds are built, an inbound has started and the next can not be created: all are
released. -/
theorem late_start_releases : ∃ live,
    (startInternal ⟨false, []⟩ lateConfig).2 = ⟨false, [live]⟩ ∧ live = .nothing :=
  have ⟨live, left, _, nothing, _⟩ :=
    failed_start_releases_iff ⟨false, []⟩ rfl lateConfig (by decide +kernel)
  ⟨live, left, nothing.mpr (.inr (.inr ⟨rfl, .inr ⟨rfl, .inl rfl⟩, by simp [lateConfig],
    by simp [lateConfig, Finds, singleTags, OutboundConfig.isGroup, OutboundConfig.tag],
    by decide +kernel⟩))⟩

def strayConfig : StartConfig :=
  ⟨true, true, true, false,
    [.single (lit "ss") true, .group (lit "auto") true [lit "missing"] false], []⟩

/-- The start fails, and the outbounds created for it are never closed. -/
theorem outbounds_left_open :
    startInternal ⟨false, []⟩ strayConfig = (false, ⟨false, [⟨false, false,
      [lit "ss", lit "proxy", lit "reject", lit "direct"], [], 0, 0⟩]⟩) := by
  decide +kernel

end Shuttle.Starting
