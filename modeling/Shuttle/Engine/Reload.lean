import Shuttle.Engine.Routing
import Shuttle.Lib.Machine

/-!
# Starting and reloading

`engine/engine_lifecycle.go` builds a router and a resolver when the engine starts and hands them
to the inbounds; a reload that changes only routing builds new ones and keeps everything else.
The engine and its inbounds hold references. The outcome of a start is a parameter.
-/

set_option linter.dupNamespace false

namespace Shuttle.Engine

open Shuttle.Go Shuttle.Lib Shuttle.Router

variable {R ρ : Type}

/-! ## The engine -/

/-- The engine's state; `objects` are the routers and resolvers built so far. -/
structure Engine (R ρ : Type) where
  running : Bool
  cfg : ClientConfig R
  /-- Every router with its resolver, by reference. -/
  objects : List (Built ρ)
  current : Option Nat
  ruleProviders : List RuleProvider
  geoManager : Option GeoDataConfig
  inbounds : Option InboundRouter

inductive Startup where
  | noTransports
  | noInbounds
  | up

namespace Engine

def newEngine (cfg : ClientConfig R) : Engine R ρ := ⟨false, cfg, [], none, [], none, none⟩

variable (env : Environment R ρ)

variable (engine : Engine R ρ)

def build : Engine R ρ :=
  let providers := engine.cfg.ruleProviders.filterMap (newRuleProvider env)
  let (built, manager) := buildRouter env engine.geoManager engine.cfg (providersByName providers)
  { engine with
    objects := engine.objects ++ [built]
    current := some engine.objects.length
    ruleProviders := providers
    geoManager := manager }

def startInternal (startup : Startup) : Bool × Engine R ρ :=
  if engine.running then (false, engine)
  else if !env.validate engine.cfg then (false, engine)
  else match startup with
    | .noTransports => (false, engine)
    | .noInbounds => (false, engine.build env)
    | .up =>
      let outbounds := env.outbounds engine.cfg
      (true, { engine.build env with
        running := true
        inbounds := some ⟨engine.objects.length, outbounds, outbounds (lit "proxy")⟩ })

def stopInternal : Bool × Engine R ρ :=
  if engine.running then
    (true, { engine with
      running := false
      current := none
      ruleProviders := []
      geoManager := none
      inbounds := none })
  else (false, engine)

/-- Two configurations have the same encoding once the ignored parts are cleared. -/
def configEqualExcept (zero : ClientConfig R → ClientConfig R) (old new : ClientConfig R) : Bool :=
  env.json (zero old) == env.json (zero new)

def isRouterOnlyChange (old new : ClientConfig R) : Bool :=
  configEqualExcept env (fun cfg => { cfg with routing := .zero, ruleProviders := [] }) old new

def strategies : List GoString :=
  [[], lit "auto", lit "priority", lit "latency", lit "multipath"]

/-- Two configurations differ only in the strategy, and the new one is a strategy. -/
def isStrategyOnlyChange (old new : ClientConfig R) : Bool :=
  old.preferred != new.preferred && strategies.contains new.preferred &&
    configEqualExcept env (fun cfg => { cfg with preferred := [] }) old new

variable (cfg : ClientConfig R) (manager : Option GeoDataConfig)

/-- Build a router with the providers that are running, and make it the current one. -/
def reloadRouterOnly : Bool × Engine R ρ :=
  let (built, manager) := buildRouter env engine.geoManager cfg
    (providersByName engine.ruleProviders)
  (true, { engine with
    objects := engine.objects ++ [built]
    current := some engine.objects.length
    geoManager := manager
    cfg := cfg })

/-- What a reload meets: whether the strategy can be switched, and how far the starts get. -/
structure ReloadOutcome where
  switched : Bool
  startup : Startup
  rollback : Startup

def reload (outcome : ReloadOutcome) : Bool × Engine R ρ :=
  if !env.precheck cfg || !env.validate cfg then (false, engine)
  else if engine.running && isRouterOnlyChange env engine.cfg cfg then
    reloadRouterOnly env engine cfg
  else if engine.running && isStrategyOnlyChange env engine.cfg cfg then
    if outcome.switched then (true, { engine with cfg := cfg }) else (false, engine)
  else
    let stopped := if engine.running then engine.stopInternal.2 else engine
    let started := startInternal env { stopped with cfg := cfg } outcome.startup
    if started.1 then (true, started.2)
    else
      let restored := { started.2 with cfg := engine.cfg }
      if engine.running then (false, (startInternal env restored outcome.rollback).2)
      else (false, restored)

/-- Route a connection of an inbound; none when no inbound is running. -/
def route (metadata : ConnMetadata) : Option (Decision × Engine R ρ) :=
  match engine.inbounds with
  | none => none
  | some inbound =>
    match engine.objects[inbound.built]? with
    | none => none
    | some built =>
      let (decision, next) := inbound.routeConnection env built metadata
      some (decision, { engine with objects := engine.objects.set inbound.built next })

/-- The decisions about later connections; none when no inbound is running. -/
def decisions (env : Environment R ρ) (engine : Engine R ρ) :
    List ConnMetadata → Option (List Decision)
  | [] => some []
  | metadata :: rest =>
    match engine.route env metadata with
    | none => none
    | some (decision, next) => (next.decisions env rest).map (decision :: ·)

inductive EngineEvent (R : Type) where
  | start (startup : Startup)
  | stop
  | reload (cfg : ClientConfig R) (outcome : ReloadOutcome)
  | connect (metadata : ConnMetadata)

def machine : Machine (Engine R ρ) (EngineEvent R) where
  step engine
    | .start startup => some (startInternal env engine startup).2
    | .stop => some engine.stopInternal.2
    | .reload cfg outcome => some (engine.reload env cfg outcome).2
    | .connect metadata => (engine.route env metadata).map (·.2)

/-! ## What the inbounds decide -/

def bridge (built : Nat) : InboundRouter :=
  ⟨built, env.outbounds cfg, env.outbounds cfg (lit "proxy")⟩

def startBuilt (cfg : ClientConfig R) : Built ρ :=
  (buildRouter env manager cfg
    (providersByName (cfg.ruleProviders.filterMap (newRuleProvider env)))).1

def after (inbound : InboundRouter) (built : Built ρ) (past : List ConnMetadata) : Built ρ :=
  past.foldl (fun built metadata => (inbound.routeConnection env built metadata).2) built

def startDecisions (cfg : ClientConfig R) (connections : List ConnMetadata) : List Decision :=
  (bridge env cfg 0).decisions env (startBuilt env manager cfg) connections

/-- The inbounds were started with a configuration and have routed these connections since. -/
def StartedFrom (cfg : ClientConfig R) (past : List ConnMetadata) : Prop :=
  ∃ built, engine.inbounds = some (bridge env cfg built) ∧
    engine.objects[built]? =
      some (after env (bridge env cfg 0) (startBuilt env manager cfg) past)

structure AcceptsHot (env : Environment R ρ) (engine : Engine R ρ) (cfg : ClientConfig R) :
    Prop where
  running : engine.running = true
  prechecked : env.precheck cfg = true
  valid : env.validate cfg = true
  routerOnly : isRouterOnlyChange env engine.cfg cfg = true

def restart : Engine R ρ :=
  (startInternal env { engine.stopInternal.2 with cfg := cfg } .up).2

/-- After a reload every later sequence of connections is decided as after a full restart. -/
def Effective (outcome : ReloadOutcome) : Prop :=
  ∀ later, (engine.reload env cfg outcome).2.decisions env later =
    (engine.restart env cfg).decisions env later

variable {env : Environment R ρ}

theorem decisions_append (inbound : InboundRouter) (past later : List ConnMetadata) :
    ∀ built, (inbound.decisions env built (past ++ later)).drop past.length =
      inbound.decisions env (after env inbound built past) later := by
  induction past with
  | nil =>
    intro built
    rfl
  | cons metadata past ih =>
    intro built
    rw [List.cons_append, InboundRouter.decisions, List.length_cons, List.drop_succ_cons, ih]
    rfl

variable {cfg : ClientConfig R} {engine next : Engine R ρ}

theorem route_eq {built : Nat} {object : Built ρ}
    (inbounds : engine.inbounds = some (bridge env cfg built))
    (held : engine.objects[built]? = some object) {metadata : ConnMetadata} :
    engine.route env metadata =
      let routed := (bridge env cfg 0).routeConnection env object metadata
      some (routed.1, { engine with objects := engine.objects.set built routed.2 }) := by
  have found : engine.objects[(bridge env cfg built).built]? = some object := held
  rw [route, inbounds]
  dsimp only
  rw [found]
  rfl

theorem decisions_eq {built : Nat} (later : List ConnMetadata) {engine : Engine R ρ}
    {object : Built ρ} (inbounds : engine.inbounds = some (bridge env cfg built))
    (held : engine.objects[built]? = some object) :
    engine.decisions env later = some ((bridge env cfg 0).decisions env object later) := by
  induction later generalizing engine object with
  | nil =>
    rfl
  | cons metadata later ih =>
    have inside := (List.getElem?_eq_some_iff.mp held).1
    have rest := @ih { engine with
      objects := engine.objects.set built
        ((bridge env cfg 0).routeConnection env object metadata).2 } _ inbounds
      (List.getElem?_set_self inside)
    rw [decisions, route_eq inbounds held]
    dsimp only
    rw [rest, Option.map_some, InboundRouter.decisions]

theorem startInternal_up (stopped : engine.running = false)
    (valid : env.validate engine.cfg = true) :
    (startInternal env engine .up).2.running = true ∧
      StartedFrom env (startInternal env engine .up).2 engine.geoManager engine.cfg [] := by
  have started : startInternal env engine .up =
      (true, { engine.build env with
        running := true
        inbounds := some (bridge env engine.cfg engine.objects.length) }) := by
    unfold startInternal
    rw [stopped, valid]
    rfl
  rw [started]
  exact ⟨rfl, engine.objects.length, rfl, List.getElem?_concat_length⟩

theorem startInternal_startedFrom (stopped : engine.running = false)
    {startup : Startup} (running : (startInternal env engine startup).2.running = true) :
    StartedFrom env (startInternal env engine startup).2 engine.geoManager engine.cfg [] := by
  cases valid : env.validate engine.cfg with
  | false =>
    unfold startInternal at running
    rw [stopped, valid] at running
    exact absurd (stopped.symm.trans running) (by decide)
  | true =>
    cases startup with
    | up => exact (startInternal_up stopped valid).2
    | noTransports | noInbounds =>
      unfold startInternal at running
      rw [stopped, valid] at running
      exact absurd (stopped.symm.trans running) (by decide)

theorem startInternal_running (running : engine.running = true)
    (startup : Startup) : (startInternal env engine startup).2 = engine := by
  unfold startInternal
  rw [running]
  rfl

theorem stopInternal_running (engine : Engine R ρ) : engine.stopInternal.2.running = false := by
  unfold stopInternal
  cases running : engine.running with
  | true => rfl
  | false => exact running

/-- The inbounds of a running engine were started with some configuration. -/
def Tracked (env : Environment R ρ) (engine : Engine R ρ) : Prop :=
  (engine.running = false → engine.inbounds = none) ∧
    (engine.running = true → ∃ manager cfg past, StartedFrom env engine manager cfg past)

theorem StartedFrom.built {manager : Option GeoDataConfig} {past : List ConnMetadata}
    (started : StartedFrom env engine manager cfg past) (object : Built ρ)
    (inbounds : next.inbounds = engine.inbounds)
    (objects : next.objects = engine.objects ++ [object]) :
    StartedFrom env next manager cfg past := by
  have ⟨built, bridged, held⟩ := started
  have inside := (List.getElem?_eq_some_iff.mp held).1
  refine ⟨built, inbounds.trans bridged, ?_⟩
  rw [objects, List.getElem?_append_left inside, held]

theorem StartedFrom.route {manager : Option GeoDataConfig} {past : List ConnMetadata}
    {metadata : ConnMetadata}
    {decision : Decision} (started : StartedFrom env engine manager cfg past)
    (routed : engine.route env metadata = some (decision, next)) :
    next.running = engine.running ∧ StartedFrom env next manager cfg (past ++ [metadata]) := by
  have ⟨built, bridged, held⟩ := started
  have inside := (List.getElem?_eq_some_iff.mp held).1
  rw [route_eq bridged held] at routed
  have grown : after env (bridge env cfg 0) (startBuilt env manager cfg) (past ++ [metadata]) =
      ((bridge env cfg 0).routeConnection env
        (after env (bridge env cfg 0) (startBuilt env manager cfg) past) metadata).2 := by
    rw [after, List.foldl_append]
    rfl
  cases routed
  refine ⟨rfl, built, bridged, ?_⟩
  rw [grown]
  exact List.getElem?_set_self inside

section

variable (tracked : Tracked env engine)

include tracked

theorem Tracked.startInternal
    (startup : Startup) : Tracked env (startInternal env engine startup).2 := by
  cases running : engine.running with
  | true =>
    rw [startInternal_running running]
    exact tracked
  | false =>
    constructor
    · intro stopped
      have none := tracked.1 running
      cases valid : env.validate engine.cfg with
      | false =>
        unfold Engine.startInternal
        rw [running, valid]
        exact none
      | true =>
        cases startup with
        | up =>
          have up := (startInternal_up running valid).1
          rw [stopped] at up
          cases up
        | noTransports | noInbounds =>
          unfold Engine.startInternal
          rw [running, valid]
          exact none
    · intro up
      exact ⟨_, _, _, startInternal_startedFrom running up⟩

theorem Tracked.stopInternal : Tracked env engine.stopInternal.2 := by
  have stopped := engine.stopInternal_running
  constructor
  · intro _
    unfold Engine.stopInternal
    cases running : engine.running with
    | true => rfl
    | false => exact tracked.1 running
  · intro up
    rw [stopped] at up
    cases up

theorem Tracked.withConfig
    (cfg : ClientConfig R) : Tracked env { engine with cfg := cfg } := tracked

theorem Tracked.reload (cfg : ClientConfig R)
    (outcome : ReloadOutcome) : Tracked env (engine.reload env cfg outcome).2 := by
  unfold Engine.reload
  split
  · exact tracked
  split
  · rename_i hot
    have running := (Bool.and_eq_true_iff.mp hot).1
    have ⟨manager, origin, past, started⟩ := tracked.2 running
    constructor
    · intro stopped
      exact absurd (running.symm.trans stopped) (by decide)
    · intro _
      exact ⟨manager, origin, past, started.built _ rfl rfl⟩
  · split
    · split
      · exact tracked.withConfig cfg
      · exact tracked
    · have idle : Tracked env (if engine.running then engine.stopInternal.2 else engine) := by
        split
        · exact tracked.stopInternal
        · exact tracked
      dsimp only
      generalize (if engine.running then engine.stopInternal.2 else engine) = stopped at idle ⊢
      have started := (idle.withConfig cfg).startInternal outcome.startup
      split
      · exact started
      have restored := started.withConfig engine.cfg
      split
      · exact restored.startInternal outcome.rollback
      · exact restored

theorem Tracked.step {event : EngineEvent R} (stepped :
    (machine env).step engine event = some next) :
    Tracked env next := by
  cases event with
  | start startup =>
    cases stepped
    exact tracked.startInternal startup
  | stop =>
    cases stepped
    exact tracked.stopInternal
  | reload cfg outcome =>
    cases stepped
    exact tracked.reload cfg outcome
  | connect metadata =>
    have ⟨⟨decision, reached⟩, routed, same⟩ := Option.map_eq_some_iff.mp stepped
    cases same
    cases running : engine.running with
    | false =>
      rw [route, tracked.1 running] at routed
      cases routed
    | true =>
      have ⟨manager, cfg, past, started⟩ := tracked.2 running
      have ⟨same, grown⟩ := started.route routed
      constructor
      · intro stopped
        rw [← same, stopped] at running
        cases running
      · intro _
        exact ⟨manager, cfg, _, grown⟩

end

/-- In every run a router-only reload returns no error, and it takes effect exactly when the
configuration of the last full start, after the connections since, decides about every later
sequence of connections as the new one does from the beginning. -/
theorem reload_effective_iff_start_decides_alike (env : Environment R ρ) (initial : ClientConfig R)
    (events : List (EngineEvent R)) (engine : Engine R ρ) (cfg : ClientConfig R)
    (outcome : ReloadOutcome)
    (ran : (machine env).run (newEngine initial) events = some engine)
    (hot : engine.AcceptsHot env cfg) :
    (engine.reload env cfg outcome).1 = true ∧
      ∃ manager started past, StartedFrom env engine manager started past ∧
        (engine.Effective env cfg outcome ↔
          ∀ later, (startDecisions env manager started (past ++ later)).drop past.length =
            startDecisions env none cfg later) := by
  have fresh : Tracked env (newEngine initial : Engine R ρ) := ⟨fun _ => rfl, nofun⟩
  have tracked : Tracked env engine :=
    Machine.run_invariant (Tracked env) (fun tracked stepped => tracked.step stepped) events fresh
      ran
  have ⟨manager, started, past, since⟩ := tracked.2 hot.running
  have fast : engine.reload env cfg outcome = reloadRouterOnly env engine cfg := by
    rw [reload, hot.prechecked, hot.valid, hot.running, hot.routerOnly]
    rfl
  have ⟨_, restarted⟩ := @startInternal_up R ρ env { engine.stopInternal.2 with cfg := cfg }
    engine.stopInternal_running hot.valid
  have noManager : engine.stopInternal.2.geoManager = none := by
    rw [stopInternal, hot.running]
    rfl
  have kept : StartedFrom env (reloadRouterOnly env engine cfg).2 manager started past :=
    since.built _ rfl rfl
  have ⟨oldBuilt, oldBridge, oldHeld⟩ := kept
  have ⟨newBuilt, newBridge, newHeld⟩ := restarted
  refine ⟨by rw [fast]; rfl, manager, started, past, since, ?_⟩
  have same (later : List ConnMetadata) :
      (engine.reload env cfg outcome).2.decisions env later =
          (engine.restart env cfg).decisions env later ↔
        (startDecisions env manager started (past ++ later)).drop past.length =
          startDecisions env none cfg later := by
    rw [fast, decisions_eq later oldBridge oldHeld, restart, decisions_eq later newBridge newHeld,
      startDecisions, decisions_append, Option.some.injEq, noManager]
    rfl
  exact forall_congr' same

def defaultTo (action : GoString) : ClientConfig Unit :=
  ⟨{ RoutingConfig.zero with defaultAction := action }, [], lit "auto", ()⟩

def startedWith (action : GoString) : Engine Unit Unit :=
  (startInternal plainEnvironment (newEngine (defaultTo action)) .up).2

theorem defaultTo_acceptsHot :
    (startedWith (lit "proxy")).AcceptsHot plainEnvironment (defaultTo (lit "direct")) :=
  ⟨rfl, rfl, rfl, by decide +kernel⟩

/-- A reload of a started engine with another default action is one of these. -/
theorem started_reload_decides :
    (startedWith (lit "proxy")).AcceptsHot plainEnvironment (defaultTo (lit "direct")) ∧
      ((startedWith (lit "proxy")).reload plainEnvironment (defaultTo (lit "direct"))
        ⟨true, .up, .up⟩).1 = true ∧
      ∃ manager started past,
        StartedFrom plainEnvironment (startedWith (lit "proxy")) manager started past ∧
        ((startedWith (lit "proxy")).Effective plainEnvironment (defaultTo (lit "direct"))
          ⟨true, .up, .up⟩ ↔
          ∀ later,
            (startDecisions plainEnvironment manager started (past ++ later)).drop past.length =
              startDecisions plainEnvironment none (defaultTo (lit "direct")) later) :=
  ⟨defaultTo_acceptsHot,
    reload_effective_iff_start_decides_alike plainEnvironment (defaultTo (lit "proxy")) [.start .up]
      (startedWith (lit "proxy")) (defaultTo (lit "direct")) ⟨true, .up, .up⟩ rfl
      defaultTo_acceptsHot⟩

def plainConnection : ConnMetadata :=
  ⟨lit "10.0.0.1:80", lit "tcp", [], [], lit "socks5", none, 0⟩

/-- After a reload whose new default action is direct, a connection still goes to the proxy; a
restart sends it directly. -/
theorem reloaded_default_action_ignored :
    (machine plainEnvironment).run (newEngine (defaultTo (lit "proxy"))) [.start .up] =
        some (startedWith (lit "proxy")) ∧
      (startedWith (lit "proxy")).AcceptsHot plainEnvironment (defaultTo (lit "direct")) ∧
      ((startedWith (lit "proxy")).reload plainEnvironment (defaultTo (lit "direct"))
        ⟨true, .up, .up⟩).1 = true ∧
      ((startedWith (lit "proxy")).reload plainEnvironment (defaultTo (lit "direct"))
        ⟨true, .up, .up⟩).2.decisions plainEnvironment [plainConnection] =
        some [.dial ⟨lit "proxy", lit "proxy"⟩ (lit "tcp") (lit "10.0.0.1:80")] ∧
      ((startedWith (lit "proxy")).restart plainEnvironment (defaultTo (lit "direct"))).decisions
        plainEnvironment [plainConnection] =
        some [.dial ⟨lit "direct", lit "direct"⟩ (lit "tcp") (lit "10.0.0.1:80")] ∧
      ¬(startedWith (lit "proxy")).Effective plainEnvironment (defaultTo (lit "direct"))
        ⟨true, .up, .up⟩ := by
  refine ⟨rfl, defaultTo_acceptsHot, rfl, by decide +kernel, by decide +kernel, fun effective => ?_⟩
  exact absurd (effective [plainConnection]) (by decide +kernel)

end Engine

end Shuttle.Engine
