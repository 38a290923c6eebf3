import Shuttle.Go.Text

/-!
# QoS classification

`qos/qos.go` compiles the rules of a configuration and enters their ports in a map beside, where a
later rule replaces an earlier one. `Classify` asks the rules in order and falls back to the map, so
to rules whose protocol it has just refused; `ClassifyPort` asks the map alone.
-/

namespace Shuttle.QoS

open Shuttle.Go List

inductive Priority where
  | critical | high | normal | bulk | low
  deriving DecidableEq

/-- A rule, with the name of its priority or compiled; sets are lists. -/
structure Rule (π : Type) where
  ports : List UInt16
  protocol : GoString
  domains : List GoString
  process : List GoString
  priority : π

structure QoSConfig where
  enabled : Bool
  rules : List (Rule GoString)

structure Classifier where
  enabled : Bool
  rules : List (Rule Priority)
  portMap : GoMap UInt16 Priority

/-- `defaultPortPriorities`, and the normal priority for the other ports. -/
def portDefault (port : UInt16) : Priority :=
  if port = 22 ∨ port = 23 ∨ port = 3389 then .critical
  else if port = 5060 ∨ port = 5061 then .high
  else if port = 123 then .bulk
  else if 6881 ≤ port ∧ port ≤ 6889 then .low
  else .normal

variable (tables : UnicodeTables)

def parsePriority (s : GoString) : Priority :=
  let lowered := toLower tables s
  if lowered = lit "critical" then .critical
  else if lowered = lit "high" then .high
  else if lowered = lit "bulk" then .bulk
  else if lowered = lit "low" then .low
  else .normal

def compile (cfg : Rule GoString) : Rule Priority :=
  ⟨cfg.ports, toLower tables cfg.protocol, cfg.domains, cfg.process.map (toLower tables),
    parsePriority tables cfg.priority⟩

def addRule (c : Classifier) (cfg : Rule GoString) : Classifier :=
  let r := compile tables cfg
  { c with
    rules := c.rules ++ [r]
    portMap := r.ports.foldl (·.set · r.priority) c.portMap }

def newClassifier (cfg : QoSConfig) : Classifier :=
  if cfg.enabled then cfg.rules.foldl (addRule tables) ⟨true, [], .empty⟩
  else ⟨false, [], .empty⟩

def ruleMatches (port : UInt16) (protocol domain process : GoString) (r : Rule Priority) : Bool :=
  (r.protocol = [] || r.protocol = protocol) &&
    (r.ports.contains port || r.process.contains process ||
      domain ≠ [] && r.domains.any fun d => d.isSuffixOf domain || domain = d)

def byRules (rules : List (Rule Priority)) (port : UInt16) (protocol domain process : GoString) :
    Option Priority :=
  (rules.find? (ruleMatches port (toLower tables protocol) (toLower tables domain)
    (toLower tables process))).map Rule.priority

namespace Classifier

variable (c : Classifier) (port : UInt16)

def classifyPort : Priority :=
  if c.enabled then (c.portMap port).getD (portDefault port) else .normal

def classify (protocol domain process : GoString) : Priority :=
  if c.enabled then
    (byRules tables c.rules port protocol domain process).getD (c.classifyPort port)
  else .normal

end Classifier

namespace QoSConfig

variable (cfg : QoSConfig) (port : UInt16)

def compiled : List (Rule Priority) := cfg.rules.map (compile tables)

/-- What is promised of `Classify`; without QoS all traffic is normal. -/
def expected (protocol domain process : GoString) : Priority :=
  if cfg.enabled then
    (byRules tables (cfg.compiled tables) port protocol domain process).getD (portDefault port)
  else .normal

def listing : List (Rule Priority) := (cfg.compiled tables).filter (·.ports.contains port)

/-- A rule for any protocol names the port or the process, or the last rule that lists the port
says what would be said without rules. -/
def Settled (process : GoString) : Prop :=
  (∃ r ∈ cfg.compiled tables, r.protocol = [] ∧
    (port ∈ r.ports ∨ toLower tables process ∈ r.process)) ∨
    ∀ r ∈ (cfg.listing tables port).getLast?, r.priority = portDefault port

theorem foldl_set (map : GoMap UInt16 Priority) (ports : List UInt16) (priority : Priority) :
    ports.foldl (·.set · priority) map port =
      if ports.contains port then some priority else map port := by
  induction ports generalizing map with
  | nil => simp
  | cons first rest ih => by_cases same : port = first <;> simp_all [GoMap.set]

section Enabled

variable {cfg} (on : cfg.enabled = true)

include on

theorem newClassifier_spec : (newClassifier tables cfg).enabled = true ∧
    (newClassifier tables cfg).rules = cfg.compiled tables ∧
    ∀ port, (newClassifier tables cfg).portMap port =
      (cfg.listing tables port).getLast?.map Rule.priority := by
  obtain ⟨enabled, rules⟩ := cfg
  obtain rfl : enabled = true := on
  simp only [newClassifier, if_true, compiled, listing]
  induction rules using List.reverseRecOn with
  | nil => simp [GoMap.empty]
  | append_singleton rest rule ih =>
    have ⟨enabled, rules, ports⟩ := ih
    rw [foldl_append, foldl_cons, foldl_nil]
    refine ⟨enabled, by simp [addRule, rules], fun port => ?_⟩
    simp only [addRule, foldl_set, ports, map_append, map_cons, map_nil, filter_append,
      filter_cons, filter_nil]
    split <;> simp

variable {tables}

theorem classifyPort_eq : (newClassifier tables cfg).classifyPort port =
    ((cfg.listing tables port).getLast?.map Rule.priority).getD (portDefault port) := by
  have ⟨enabled, _, ports⟩ := newClassifier_spec tables on
  simp [Classifier.classifyPort, enabled, ports]

theorem classify_eq (protocol domain process : GoString) :
    (newClassifier tables cfg).classify tables port protocol domain process =
      (byRules tables (cfg.compiled tables) port protocol domain process).getD
        ((newClassifier tables cfg).classifyPort port) := by
  have ⟨enabled, rules, _⟩ := newClassifier_spec tables on
  simp [Classifier.classify, enabled, rules]

theorem settled_of_agrees {process : GoString}
    (agrees : (newClassifier tables cfg).classify tables port [] [] process =
      cfg.expected tables port [] [] process) : cfg.Settled tables port process := by
  by_contra unsettled
  simp only [Settled, not_or, not_exists, not_and, not_forall] at unsettled
  have ⟨free, last, isLast, differs⟩ := unsettled
  have silent : byRules tables (cfg.compiled tables) port [] [] process = none := by
    rw [byRules, Option.map_eq_none_iff, find?_eq_none]
    intro r listed
    simpa [ruleMatches, toLower, isASCII] using free r listed
  rw [classify_eq port on, classifyPort_eq port on, expected, if_pos on, silent,
    Option.mem_def.mp isLast] at agrees
  exact differs agrees

theorem agrees_of_settled {protocol domain process : GoString}
    (settled : cfg.Settled tables port process) :
    (newClassifier tables cfg).classify tables port protocol domain process =
      cfg.expected tables port protocol domain process := by
  rw [classify_eq port on, classifyPort_eq port on, expected, if_pos on]
  cases silent : byRules tables (cfg.compiled tables) port protocol domain process with
  | some priority => rfl
  | none =>
    rcases settled with ⟨r, listed, free, names⟩ | last
    · rw [byRules, Option.map_eq_none_iff, find?_eq_none] at silent
      have refused := silent r listed
      rcases names with names | names <;> simp [ruleMatches, free, names] at refused
    · cases found : (cfg.listing tables port).getLast? with
      | none => rfl
      | some r => exact last r found

omit on in
/-- With rules for ports alone the first rule for a port decides. -/
theorem byRules_ports (plain : ∀ rule ∈ cfg.rules,
    rule.protocol = [] ∧ rule.domains = [] ∧ rule.process = []) :
    byRules tables (cfg.compiled tables) port [] [] [] =
      (cfg.listing tables port).head?.map Rule.priority := by
  have matching : ∀ r ∈ cfg.compiled tables, ruleMatches port (toLower tables [])
      (toLower tables []) (toLower tables []) r = r.ports.contains port := by
    intro r listed
    obtain ⟨rule, known, rfl⟩ := mem_map.mp listed
    have ⟨protocol, domains, process⟩ := plain rule known
    simp [ruleMatches, compile, protocol, domains, process, toLower, isASCII]
  rw [byRules, ← head?_filter, listing, filter_congr matching]

end Enabled

/-- `Classify` keeps its promise for all inputs exactly if every port is settled; and with rules for
ports alone `ClassifyPort` agrees with it exactly if the first and the last rule for a port do. -/
theorem classification_agrees_iff (tables : UnicodeTables) (cfg : QoSConfig) :
    ((∀ port protocol domain process, (newClassifier tables cfg).classify tables port protocol
        domain process = cfg.expected tables port protocol domain process) ↔
      (cfg.enabled = true → ∀ port process, cfg.Settled tables port process)) ∧
    ((∀ rule ∈ cfg.rules, rule.protocol = [] ∧ rule.domains = [] ∧ rule.process = []) →
      ((∀ port, (newClassifier tables cfg).classifyPort port =
          (newClassifier tables cfg).classify tables port [] [] []) ↔
        (cfg.enabled = true → ∀ port, (cfg.listing tables port).head?.map Rule.priority =
          (cfg.listing tables port).getLast?.map Rule.priority))) := by
  cases on : cfg.enabled with
  | false =>
    simp [newClassifier, expected, Classifier.classify, Classifier.classifyPort, on]
  | true =>
    refine ⟨⟨fun agrees _ port process => settled_of_agrees port on (agrees port [] [] process),
      fun settled port _ _ process => agrees_of_settled port on (settled rfl port process)⟩,
      fun plain => ?_⟩
    simp only [forall_const]
    apply forall_congr'
    intro port
    rw [classify_eq port on, byRules_ports port plain, classifyPort_eq port on]
    cases cfg.listing tables port with
    | nil => simp
    | cons first rest => simp [getLast?_cons, eq_comm]

/-- Port 443 is bulk for UDP only, yet other protocols fall back to that rule; of two rules for port
80 `Classify` takes the first and `ClassifyPort` the last. -/
theorem fallback_ignores_protocol :
    let overlap := newClassifier bytewiseTables ⟨true, [⟨[80], [], [], [], lit "high"⟩,
      ⟨[80], [], [], [], lit "low"⟩, ⟨[443], lit "udp", [], [], lit "bulk"⟩]⟩
    overlap.classify bytewiseTables 443 (lit "tcp") [] [] = .bulk ∧
      overlap.classify bytewiseTables 80 [] [] [] = .high ∧ overlap.classifyPort 80 = .low := by
  decide

end QoSConfig

end Shuttle.QoS
