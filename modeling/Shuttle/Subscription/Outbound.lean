import Shuttle.Subscription.Import
import Mathlib.Data.List.Nodup

/-!
# From a subscribed server to an outbound

Every parser of a subscription joins host and port with `%s:%d`, and the converter splits the
address again with `net.SplitHostPort`. The two are inverse exactly for hosts without colons and
brackets, so not for the literals of IPv6 addresses. Tags are made unique by counting names.
-/

namespace Shuttle.Subscription

open Shuttle.Go List Function

/-! ## Clash entries

A value that `json.Marshal` refuses, as `.nan` or a map with keys that are not strings, stands in an
entry as a number that no `float64` holds. -/

def stringField (entry : List (GoString × Json)) (key : GoString) : GoString :=
  match GoMap.ofList entry key with
  | some (.string text) => text
  | _ => []

/-- `intField`; the value of a number is what its conversion to `int` gives. -/
def intField (entry : List (GoString × Json)) (key : GoString) : Int :=
  match GoMap.ofList entry key with
  | some (.number value _) => value.getD 0
  | _ => 0

def promotedFields : List GoString :=
  [lit "name", lit "type", lit "server", lit "port", lit "password", lit "uuid", lit "sni",
    lit "servername", lit "servname", lit "server-name"]

def clashTypes : List GoString :=
  [lit "ss", lit "trojan", lit "vmess", lit "vless", lit "hysteria2", lit "hysteria",
    lit "wireguard"]

def firstText (texts : List GoString) : GoString := (texts.find? (· ≠ [])).getD []

variable (tables : UnicodeTables)

def clashEndpoint (entry : List (GoString × Json)) : Option ServerEndpoint :=
  let proxyType := toLower tables (stringField entry (lit "type"))
  let options := entry.filter fun member => promotedFields.all (· ≠ member.1)
  if clashTypes.any (· = proxyType) then
    some {
      addr := formatAddr (stringField entry (lit "server")) (intField entry (lit "port"))
      name := stringField entry (lit "name")
      password :=
        if proxyType = lit "vmess" ∨ proxyType = lit "vless" then stringField entry (lit "uuid")
        else stringField entry (lit "password")
      sni := firstText ([lit "sni", lit "servername", lit "server-name", lit "servname"].map
        (stringField entry))
      type := proxyType
      options := if options.isEmpty then none else some (GoMap.ofList options) }
  else none

/-! ## `ToOutboundConfigs` -/

def digitsBelow (limit : Nat) (text : GoString) : Option Nat :=
  if text = [] then none
  else text.foldl (fun value byte => do
    let value ← value
    let digit ← decimalDigit byte
    if value * 10 + digit < limit then some (value * 10 + digit) else none) (some 0)

/-- `strconv.Atoi`. -/
def atoi : GoString → Option Int
  | 0x2d :: text => (digitsBelow (2 ^ 63 + 1) text).map fun value => -Int.ofNat value
  | 0x2b :: text => (digitsBelow (2 ^ 63) text).map Int.ofNat
  | text => (digitsBelow (2 ^ 63) text).map Int.ofNat

def adapterTypes : List (GoString × GoString) :=
  [(lit "ss", lit "shadowsocks"), (lit "trojan", lit "trojan"), (lit "vmess", lit "vmess"),
    (lit "vless", lit "vless"), (lit "hysteria2", lit "hysteria2"),
    (lit "hysteria", lit "hysteria2"), (lit "wireguard", lit "wireguard"),
    (lit "shadowsocks", lit "shadowsocks")]

def clashTypeToAdapterType (type : GoString) : Option GoString :=
  (adapterTypes.find? (·.1 = type)).map Prod.snd

/-- The options that `buildAdapterOptions` makes of the address. -/
def addressOptions (addr : GoString) : GoMap GoString Json :=
  match splitHostPort addr with
  | some (host, portStr) =>
    let options := GoMap.empty.set (lit "server") (.string host)
    match atoi portStr with
    | some port => options.set (lit "server_port") (.number (some port) true)
    | none => options
  | none => GoMap.empty.set (lit "server") (.string addr)

def setText (options : GoMap GoString Json) (key text : GoString) : GoMap GoString Json :=
  if text = [] then options else options.set key (.string text)

/-- The options of a server, those of its entry in place of the others. -/
def mergedOptions (server : ServerEndpoint) (secret : GoString) : GoMap GoString Json := fun key =>
  (server.options.bind (· key)).or
    (setText (setText (addressOptions server.addr) secret server.password) (lit "sni") server.sni
      key)

def renameCipher (options : GoMap GoString Json) : GoMap GoString Json :=
  match options (lit "cipher") with
  | some cipher => (options.set (lit "method") cipher).delete (lit "cipher")
  | none => options

def buildAdapterOptions (server : ServerEndpoint) (adapterType : GoString) : GoMap GoString Json :=
  if adapterType = lit "vless" ∨ adapterType = lit "vmess" then mergedOptions server (lit "uuid")
  else if adapterType = lit "shadowsocks" then renameCipher (mergedOptions server (lit "password"))
  else mergedOptions server (lit "password")

/-- `json.Marshal` takes the options. -/
def Encodes (options : GoMap GoString Json) : Prop :=
  ∀ key value, options key = some value → value.inRange = true

structure OutboundConfig where
  tag : GoString
  type : GoString
  /-- What is encoded. The error of the encoder is dropped: if it refuses them, there are none. -/
  options : GoMap GoString Json

def sanitizeTag (text : GoString) : GoString :=
  (toLower tables text).map fun byte => if byte = 0x20 ∨ byte = colon then 0x2d else byte

def outboundOf (tag : GoString) (server : ServerEndpoint) : OutboundConfig :=
  match clashTypeToAdapterType server.type with
  | some adapterType => ⟨tag, adapterType, buildAdapterOptions server adapterType⟩
  | none => ⟨tag, lit "proxy", GoMap.empty.set (lit "server") (.string server.addr)⟩

/-- The loop of `ToOutboundConfigs` with the number of times each tag was given. -/
def convertFrom (tables : UnicodeTables) (seen : GoMap GoString Nat) :
    List ServerEndpoint → List OutboundConfig
  | [] => []
  | server :: rest =>
    let name := sanitizeTag tables server.name
    let base := if name = [] then sanitizeTag tables server.addr else name
    match seen base with
    | some count =>
      outboundOf (base ++ 0x2d :: formatInt (count + 1 : Nat)) server ::
        convertFrom tables (seen.set base (count + 1)) rest
    | none => outboundOf base server :: convertFrom tables (seen.set base 1) rest

def toOutboundConfigs (servers : List ServerEndpoint) : List OutboundConfig :=
  convertFrom tables GoMap.empty servers

/-- The outbound leads to a host and a port: as options of its adapter, or in one address for an
outbound without an adapter of its own. -/
def Carries (host : GoString) (port : Int) (config : OutboundConfig) : Prop :=
  if config.type = lit "proxy" then
    ∃ addr, config.options (lit "server") = some (.string addr) ∧
      splitHostPort addr = some (host, formatInt port)
  else Encodes config.options ∧ config.options (lit "server") = some (.string host) ∧
    ∃ float, config.options (lit "server_port") = some (.number (some port) float)

/-! ## Joining and splitting -/

section Ports

variable {port : Int} (low : 1 ≤ port) (high : port ≤ 65535)

include low

theorem formatInt_positive : formatInt port = formatDecimal port.toNat := by
  rw [formatInt, if_neg (by omega), show port.natAbs = port.toNat by omega]

theorem formatInt_unmarked : Unmarked (formatInt port) := by
  rw [formatInt_positive low]
  exact formatDecimal_plain _

theorem formatInt_unsigned {byte : UInt8} (member : byte ∈ formatInt port) :
    byte ≠ 0x2d ∧ byte ≠ 0x2b := by
  rw [formatInt_positive low] at member
  have ⟨digit, small, same⟩ := mem_formatWithin (by decide) (by decide) 20 _ member
  rw [same]
  exact (by decide : ∀ digit < 16, digitByte digit ≠ 0x2d ∧ digitByte digit ≠ 0x2b) digit small

theorem atoi_formatInt (fits : port < 2 ^ 63) : atoi (formatInt port) = some port := by
  have digits : digitsBelow (2 ^ 63) (formatInt port) = some port.toNat := by
    rw [formatInt_positive low, digitsBelow, if_neg (formatDecimal_ne_nil _)]
    exact foldl_formatWithin 20 port.toNat (by omega) (by omega) (by decide)
  unfold atoi
  split
  · rename_i text shape
    exact absurd rfl (formatInt_unsigned low (shape ▸ mem_cons_self : 0x2d ∈ formatInt port)).1
  · rename_i text shape
    exact absurd rfl (formatInt_unsigned low (shape ▸ mem_cons_self : 0x2b ∈ formatInt port)).2
  · rw [digits, Option.map_some, Int.ofNat_eq_natCast, Int.toNat_of_nonneg (by omega)]

theorem split_formatAddr_iff {host : GoString} :
    (∃ text, splitHostPort (formatAddr host port) = some (host, text)) ↔ Unmarked host := by
  constructor
  · intro ⟨text, split⟩
    have ⟨_, ⟨opening, closing⟩, shape⟩ := splitHostPort_some split
    rcases shape with ⟨colonless, _⟩ | bracketed
    · exact ⟨colonless, opening, closing⟩
    · cases host with
      | nil => cases bracketed
      | cons first rest =>
        have ⟨same, _⟩ := List.cons.inj bracketed
        exact absurd (same ▸ mem_cons_self) opening
  · exact fun unmarked => ⟨_, splitHostPort_plain unmarked (formatInt_unmarked low)⟩

theorem addressOptions_server_iff {host : GoString} :
    addressOptions (formatAddr host port) (lit "server") = some (.string host) ↔ Unmarked host := by
  rw [← split_formatAddr_iff low]
  cases split : splitHostPort (formatAddr host port) with
  | none =>
    -- an address that can not be split is taken whole, with the port
    have longer : formatAddr host port ≠ host := fun same => by
      have lengths := congrArg List.length same
      simp [formatAddr] at lengths
    simp [addressOptions, split, GoMap.set, longer]
  | some pair =>
    have apart : lit "server" ≠ lit "server_port" := by decide
    have server : addressOptions (formatAddr host port) (lit "server") = some (.string pair.1) := by
      rw [addressOptions, split]
      dsimp only
      cases atoi pair.2 <;> simp [GoMap.set, apart]
    rw [server]
    constructor
    · intro same
      cases same
      exact ⟨pair.2, rfl⟩
    · rintro ⟨text, same⟩
      cases same
      rfl

include high in
theorem addressOptions_port {host : GoString} (unmarked : Unmarked host) :
    addressOptions (formatAddr host port) (lit "server_port") =
      some (.number (some port) true) := by
  rw [addressOptions, formatAddr, splitHostPort_plain unmarked (formatInt_unmarked low)]
  dsimp only
  rw [atoi_formatInt low (by omega)]
  simp [GoMap.set]

end Ports

variable {key : GoString}

variable (tables : UnicodeTables) {options : GoMap GoString Json} (servers : List ServerEndpoint)

theorem setText_of_ne {other : GoString} (text : GoString)
    (apart : key ≠ other) : setText options other text key = options key := by
  unfold setText
  split
  · rfl
  · exact update_of_ne apart _ _

theorem renameCipher_of_ne
    (method : key ≠ lit "method") (cipher : key ≠ lit "cipher") :
    renameCipher options key = options key := by
  unfold renameCipher
  cases options (lit "cipher") with
  | none => rfl
  | some value =>
    exact (update_of_ne cipher _ _).trans (update_of_ne method _ _)

theorem buildAdapterOptions_address (server : ServerEndpoint) (adapterType : GoString)
    (isAddress : key = lit "server" ∨ key = lit "server_port") :
    buildAdapterOptions server adapterType key =
      (server.options.bind (· key)).or (addressOptions server.addr key) := by
  have apart : key ≠ lit "uuid" ∧ key ≠ lit "password" ∧ key ≠ lit "sni" ∧ key ≠ lit "method" ∧
      key ≠ lit "cipher" := by
    rcases isAddress with same | same <;> rw [same] <;> decide
  have ⟨uuid, password, sni, method, cipher⟩ := apart
  have merged : ∀ secret, key ≠ secret → mergedOptions server secret key =
      (server.options.bind (· key)).or (addressOptions server.addr key) := by
    intro secret ne
    rw [mergedOptions, setText_of_ne _ sni, setText_of_ne _ ne]
  unfold buildAdapterOptions
  split
  · exact merged _ uuid
  · split
    · exact (renameCipher_of_ne method cipher).trans (merged _ password)
    · exact merged _ password

theorem Encodes.set (encodes : Encodes options) {value : Json} (ranged : value.inRange = true) :
    Encodes (options.set key value) := by
  intro other found held
  rcases GoMap.set_eq_some_iff.mp held with ⟨_, same⟩ | ⟨_, before⟩
  · exact same ▸ ranged
  · exact encodes other found before

theorem Encodes.setText (encodes : Encodes options) (text : GoString) :
    Encodes (setText options key text) := by
  unfold Subscription.setText
  split
  · exact encodes
  · exact encodes.set rfl

theorem encodes_addressOptions (addr : GoString) : Encodes (addressOptions addr) := by
  have empty : Encodes GoMap.empty := nofun
  unfold addressOptions
  split
  · dsimp only
    split
    · exact (empty.set rfl).set rfl
    · exact empty.set rfl
  · exact empty.set rfl

theorem Encodes.renameCipher (encodes : Encodes options) : Encodes (renameCipher options) := by
  unfold Subscription.renameCipher
  cases cipher : options (lit "cipher") with
  | none => exact encodes
  | some value =>
    intro other found held
    exact encodes.set (encodes _ _ cipher) other found (GoMap.delete_eq_some_iff.mp held).2

/-- What the converter adds to the options of an entry can be encoded. -/
theorem encodes_buildAdapterOptions {server : ServerEndpoint}
    (encodes : ∀ own ∈ server.options, Encodes own) (adapterType : GoString) :
    Encodes (buildAdapterOptions server adapterType) := by
  have merged (secret : GoString) : Encodes (mergedOptions server secret) := by
    intro key value found
    rcases Option.or_eq_some_iff.mp found with own | ⟨_, added⟩
    · have ⟨options, listed, held⟩ := Option.bind_eq_some_iff.mp own
      exact encodes options listed key value held
    · exact ((encodes_addressOptions _).setText _).setText _ key value added
  unfold buildAdapterOptions
  split_ifs
  · exact merged _
  · exact (merged _).renameCipher
  · exact merged _

theorem adapter_ne_proxy {type adapterType : GoString}
    (known : clashTypeToAdapterType type = some adapterType) : adapterType ≠ lit "proxy" := by
  have ⟨pair, found, same⟩ := Option.map_eq_some_iff.mp known
  have all : adapterTypes.all (fun pair => decide (pair.2 ≠ lit "proxy")) = true := by decide
  have apart := all_eq_true.mp all pair (mem_of_find?_eq_some found)
  exact same ▸ of_decide_eq_true apart

theorem carries_outboundOf_iff {host : GoString} {port : Int} (low : 1 ≤ port)
    (high : port ≤ 65535) {server : ServerEndpoint} (joined : server.addr = formatAddr host port)
    (noServer : server.options.bind (· (lit "server")) = none)
    (encodes : ∀ own ∈ server.options, Encodes own) (tag : GoString) :
    Carries host port (outboundOf tag server) ↔ Unmarked host ∧
      ((clashTypeToAdapterType server.type).isSome = true →
        ∀ value, server.options.bind (· (lit "server_port")) = some value →
          ∃ float, value = .number (some port) float) := by
  unfold outboundOf Carries
  cases known : clashTypeToAdapterType server.type with
  | none =>
    simp only [GoMap.set, update_self, Option.some.injEq, Json.string.injEq,
      exists_eq_left', Option.isSome_none, Bool.false_eq_true, false_implies, and_true, joined]
    constructor
    · exact fun split => (split_formatAddr_iff low).mp ⟨_, split⟩
    · exact fun unmarked => splitHostPort_plain unmarked (formatInt_unmarked low)
  | some adapterType =>
    dsimp only
    rw [if_neg (adapter_ne_proxy known), and_iff_right (encodes_buildAdapterOptions encodes _),
      buildAdapterOptions_address server _ (.inl rfl),
      buildAdapterOptions_address server _ (.inr rfl), noServer, Option.none_or, joined,
      addressOptions_server_iff low]
    refine and_congr_right fun unmarked => ?_
    rw [addressOptions_port low high unmarked]
    cases server.options.bind (· (lit "server_port")) with
    | none | some value => simp

theorem convertFrom_getElem? {servers : List ServerEndpoint} :
    ∀ (seen : GoMap GoString Nat) {index : Nat} {server : ServerEndpoint},
      servers[index]? = some server →
      ∃ tag, (convertFrom tables seen servers)[index]? = some (outboundOf tag server) := by
  induction servers with
  | nil => exact nofun
  | cons first rest ih =>
    intro seen index server present
    rw [convertFrom]
    cases index with
    | zero =>
      cases present
      split <;> exact ⟨_, rfl⟩
    | succ index => split <;> exact ih _ present

/-! ## Tags -/

/-- The tag of a server before it is told apart from earlier ones. -/
def baseTag (server : ServerEndpoint) : GoString :=
  let name := sanitizeTag tables server.name
  if name = [] then sanitizeTag tables server.addr else name

/-- The tag made of a base that was used so many times before. -/
def numbered (use : GoString × Nat) : GoString :=
  if use.2 = 0 then use.1 else use.1 ++ 0x2d :: formatInt (use.2 + 1 : Nat)

/-- Each base with the number of times it stands before. -/
def uses (earlier : List GoString) : List GoString → List (GoString × Nat)
  | [] => []
  | base :: rest => (base, earlier.count base) :: uses (base :: earlier) rest

theorem convertFrom_tags :
    ∀ {seen : GoMap GoString Nat} {earlier : List GoString},
      (∀ base, seen base = if earlier.count base = 0 then none else some (earlier.count base)) →
      (convertFrom tables seen servers).map OutboundConfig.tag =
        (uses earlier (servers.map (baseTag tables))).map numbered := by
  have tag_outboundOf : ∀ tag server, (outboundOf tag server).tag = tag := by
    intro tag server
    unfold outboundOf
    split <;> rfl
  induction servers with
  | nil => exact fun _ => rfl
  | cons server rest ih =>
    intro seen earlier counted
    have next : ∀ base, seen.set (baseTag tables server)
        (earlier.count (baseTag tables server) + 1) base =
          if (baseTag tables server :: earlier).count base = 0 then none
          else some ((baseTag tables server :: earlier).count base) := by
      intro base
      by_cases same : base = baseTag tables server
      · simp [GoMap.set, same]
      · simp [GoMap.set, same, counted, count_cons_of_ne (Ne.symm same)]
    rw [map_cons, uses, map_cons, ← ih next, numbered, convertFrom]
    split
    · rename_i count found
      obtain ⟨several, same⟩ := Option.ite_none_left_eq_some.mp
        ((counted (baseTag tables server)).symm.trans found)
      rw [if_neg several, map_cons, tag_outboundOf, Option.some.inj same]
      rfl
    · rename_i missing
      have absent := (counted (baseTag tables server)).symm.trans missing
      have first : earlier.count (baseTag tables server) = 0 := by simpa using absent
      rw [if_pos first, map_cons, tag_outboundOf, first]
      rfl

theorem mem_uses {use : GoString × Nat} (bases : List GoString) : ∀ {earlier : List GoString},
    use ∈ uses earlier bases ↔
      earlier.count use.1 ≤ use.2 ∧ use.2 < earlier.count use.1 + bases.count use.1 := by
  induction bases with
  | nil => simp [uses]
  | cons base rest ih =>
    intro earlier
    rw [uses, mem_cons, ih]
    by_cases same : base = use.1
    · simp only [Prod.ext_iff, same, count_cons_self, true_and]
      omega
    · simp only [Prod.ext_iff, Ne.symm same, count_cons_of_ne same, false_and, false_or]

theorem uses_nodup (bases : List GoString) : ∀ {earlier : List GoString},
    (uses earlier bases).Nodup := by
  induction bases with
  | nil => exact nodup_nil
  | cons base rest ih =>
    intro earlier
    apply nodup_cons.mpr
    simp [mem_uses, ih]

/-- Numbered tags have one base and number each: the digits hold no dash. -/
theorem numbered_inj {left right : GoString} {fewer more : Nat} (low : fewer + 1 < 2 ^ 63)
    (high : more + 1 < 2 ^ 63)
    (same : left ++ 0x2d :: formatInt (fewer + 1 : Nat) =
      right ++ 0x2d :: formatInt (more + 1 : Nat)) : left = right ∧ fewer = more := by
  have undashed : ∀ count : Nat, 0x2d ∉ formatInt (count + 1 : Nat) := fun count member =>
    (formatInt_unsigned (by omega) member).1 rfl
  have ⟨bases, digits⟩ := lastByte_inj (undashed fewer) (undashed more) same
  have values := congrArg atoi digits
  rw [atoi_formatInt (by omega) (by omega), atoi_formatInt (by omega) (by omega)] at values
  simp at values
  exact ⟨bases, values⟩

/-- Tags are told apart by counting the earlier servers of the same base, so they are pairwise
distinct exactly if no server's own name reads like the numbered tag of another. -/
theorem tags_distinct_iff (tables : UnicodeTables) {servers : List ServerEndpoint}
    (fits : servers.length < 2 ^ 63 - 1) :
    (toOutboundConfigs tables servers).length = servers.length ∧
    (∀ (index : Nat) server, servers[index]? = some server → ∃ tag,
      (toOutboundConfigs tables servers)[index]? = some (outboundOf tag server)) ∧
    (((toOutboundConfigs tables servers).map OutboundConfig.tag).Nodup ↔
      ∀ base number, 1 < number → number ≤ (servers.map (baseTag tables)).count base →
        base ++ 0x2d :: formatInt (number : Nat) ∉ servers.map (baseTag tables)) := by
  have tags : (toOutboundConfigs tables servers).map OutboundConfig.tag =
      (uses [] (servers.map (baseTag tables))).map numbered :=
    convertFrom_tags tables servers fun _ => rfl
  have lengths : ∀ (bases earlier : List GoString), (uses earlier bases).length = bases.length := by
    intro bases
    induction bases with
    | nil => exact fun _ => rfl
    | cons base rest ih => simp [uses, ih]
  have bounded : ∀ base, (servers.map (baseTag tables)).count base < 2 ^ 63 - 1 := fun base =>
    Nat.lt_of_le_of_lt count_le_length (by simpa using fits)
  refine ⟨?_, fun _ _ => convertFrom_getElem? tables _, ?_⟩
  · have same := congrArg List.length tags
    simpa [lengths] using same
  rw [tags, nodup_map_iff_inj_on (uses_nodup _)]
  constructor
  · intro apart base number repeated counted member
    have same := apart (base, number - 1) ((mem_uses _).mpr (by simp; omega))
      (base ++ 0x2d :: formatInt (number : Nat), 0)
      ((mem_uses _).mpr (by simpa [count_pos_iff] using member))
      (by simp [numbered, show number - 1 ≠ 0 by omega, show number - 1 + 1 = number by omega])
    simp at same
  · intro apart ⟨left, fewer⟩ leftUse ⟨right, more⟩ rightUse same
    have ⟨_, leftCount⟩ := (mem_uses _).mp leftUse
    have ⟨_, rightCount⟩ := (mem_uses _).mp rightUse
    simp only [count_nil, Nat.zero_add] at leftCount rightCount
    have := bounded left
    have := bounded right
    -- a plain tag can only meet a numbered one where its name is spelled like it
    have crossed : ∀ {plain base : GoString} {count : Nat}, count ≠ 0 →
        count < (servers.map (baseTag tables)).count base →
        0 < (servers.map (baseTag tables)).count plain →
        plain ≠ base ++ 0x2d :: formatInt (count + 1 : Nat) := by
      intro plain base count several counted present equal
      exact apart base (count + 1) (by omega) counted (equal ▸ count_pos_iff.mp present)
    simp only [numbered] at same
    split at same <;> split at same
    · simp_all
    · exact absurd same (crossed ‹_› rightCount (by omega))
    · exact absurd same.symm (crossed ‹_› leftCount (by omega))
    · have ⟨bases, counts⟩ := numbered_inj (by omega) (by omega) same
      rw [bases, counts]

def namedServer (name : GoString) : ServerEndpoint := { ServerEndpoint.zero with name := name }

theorem repeated_name_numbered :
    ((toOutboundConfigs bytewiseTables ([lit "a", lit "a"].map namedServer)).map
      OutboundConfig.tag).Nodup :=
  (tags_distinct_iff bytewiseTables (by decide)).2.2.mpr
    fun base number repeated counted member => by
    have short : base ++ 0x2d :: formatInt (number : Nat) = lit "a" := by
      have bases : [lit "a", lit "a"].map (baseTag bytewiseTables ∘ namedServer) =
          [lit "a", lit "a"] := by decide
      rw [map_map, bases] at member
      simpa using member
    have lengths := congrArg List.length short
    have : formatInt (number : Nat) = [] := by
      rw [length_append, length_cons, show (lit "a").length = 1 from rfl] at lengths
      exact eq_nil_of_length_eq_zero (by omega)
    rw [formatInt_positive (by omega)] at this
    exact formatDecimal_ne_nil _ this

/-- The second server named `a` gets the tag of the third, which has that name of its own. -/
theorem numbered_name_collides :
    (toOutboundConfigs bytewiseTables ([lit "a", lit "a", lit "a-2"].map namedServer)).map
      OutboundConfig.tag = [lit "a", lit "a-2", lit "a-2"] := by
  decide

/-! ## The three formats -/

/-- The outbound made of the server at a place of a list leads to a host and a port. -/
def Leads (index : Nat) (host : GoString)
    (port : Int) : Prop :=
  ∃ config, (toOutboundConfigs tables servers)[index]? = some config ∧ Carries host port config

theorem options_bind (options : List (GoString × Json)) (key : GoString) :
    (if options.isEmpty then none else some (GoMap.ofList options)).bind (· key) =
      GoMap.ofList options key := by
  cases options with
  | nil | cons member rest => rfl

theorem encodes_ofList {members : List (GoString × Json)}
    (ranged : ∀ member ∈ members, member.2.inRange = true) :
    ∀ own ∈ if members.isEmpty then none else some (GoMap.ofList members), Encodes own := by
  intro own made key value found
  cases (Option.ite_none_left_eq_some.mp made).2
  exact ranged _ (GoMap.ofList_mem found)

theorem membersInRange_iff {members : List (GoString × Json)} :
    Json.membersInRange members = true ↔ ∀ member ∈ members, member.2.inRange = true := by
  induction members with
  | nil => simp [Json.membersInRange]
  | cons member rest ih => simp [Json.membersInRange, ih]

theorem clashType_known {type : GoString} (supported : clashTypes.any (· = type) = true) :
    (clashTypeToAdapterType type).isSome = true := by
  have all : clashTypes.all (fun type => (clashTypeToAdapterType type).isSome) = true := by decide
  obtain ⟨other, listed, same⟩ := any_eq_true.mp supported
  exact of_decide_eq_true same ▸ all_eq_true.mp all other listed

section Formats

variable {tables : UnicodeTables} {servers : List ServerEndpoint} {index : Nat}
  {server : ServerEndpoint} (present : servers[index]? = some server)

include present

theorem leads_iff {host : GoString} {port : Int} {known : Prop}
    (carries : ∀ tag, Carries host port (outboundOf tag server) ↔ known) :
    Leads tables servers index host port ↔ known := by
  have ⟨tag, converted⟩ := convertFrom_getElem? tables GoMap.empty present
  unfold Leads toOutboundConfigs
  rw [converted]
  simp [carries]

/-- The outbound of a subscribed server leads to the host and port of its entry, exactly when the
host has no colons and brackets. The values of a Clash entry have to be ones that JSON can write,
and it may have no option `server_port` of another value. -/
theorem subscribed_host_kept_iff {host : GoString} {port : Int} (low : 1 ≤ port)
    (high : port ≤ 65535) :
    (∀ entry, clashEndpoint tables entry = some server → stringField entry (lit "server") = host →
      intField entry (lit "port") = port → (∀ member ∈ entry, member.2.inRange = true) →
      (Leads tables servers index host port ↔ Unmarked host ∧
        ∀ value, GoMap.ofList entry (lit "server_port") = some value →
          ∃ float, value = .number (some port) float)) ∧
    (∀ formats raw base, decodeOutbound formats ⟨[], [], [], 0, [], []⟩ raw = some base →
      singboxEndpoint formats raw = some server → base.server = host → base.serverPort = port →
      (Leads tables servers index host port ↔ Unmarked host)) ∧
    (∀ entry : SIP008Server, entry.endpoint = server → entry.server = host →
      entry.serverPort = port → (Leads tables servers index host port ↔ Unmarked host)) := by
  refine ⟨fun entry made hosted ported ranged => ?_,
    fun formats raw base decoded made hosted ported => ?_, fun entry made hosted ported => ?_⟩
  · have ⟨supported, same⟩ := Option.ite_none_right_eq_some.mp made
    cases same
    refine leads_iff present fun tag => (carries_outboundOf_iff low high ?_ ?_
      (encodes_ofList fun member kept => ranged member (mem_filter.mp kept).1) tag).trans ?_
    · rw [hosted, ported]
    · rw [options_bind]
      exact (GoMap.ofList_filter (fun name => promotedFields.all (· ≠ name)) entry _).trans
        (if_neg (by decide))
    · have kept : promotedFields.all (· ≠ lit "server_port") = true := by decide
      rw [options_bind, GoMap.ofList_filter (fun name => promotedFields.all (· ≠ name)) entry _,
        if_pos kept]
      simp only [clashType_known supported, true_implies]
  · unfold singboxEndpoint at made
    rw [decoded] at made
    dsimp only at made
    split at made
    · cases made
    split at made
    · cases made
    split at made
    · cases made
    rename_i full read
    cases made
    have ranged : ∀ member ∈ singboxOptions raw, member.2.inRange = true := by
      intro member listed
      cases raw with
      | object members =>
        exact membersInRange_iff.mp (Option.ite_none_right_eq_some.mp read).1 member
          (mem_filter.mp listed).1
      | _ => cases listed
    have absent : ∀ key ∈ singboxPromotedFields,
        GoMap.ofList (singboxOptions raw) key = none := by
      intro key listed
      cases raw with
      | object members =>
        exact (GoMap.ofList_filter (fun name => name ∉ singboxPromotedFields) members key).trans
          (if_neg (by simpa using listed))
      | _ => rfl
    refine leads_iff present fun tag =>
      (carries_outboundOf_iff low high ?_ ?_ (encodes_ofList ranged) tag).trans ?_
    · rw [hosted, ported]
    · rw [options_bind]
      exact absent _ (by decide)
    · rw [options_bind, absent _ (by decide)]
      simp
  · subst made
    refine leads_iff present fun tag =>
      (carries_outboundOf_iff low high ?_ rfl (fun _ made => by cases made) tag).trans ?_
    · rw [SIP008Server.endpoint, hosted, ported]
    · simp [SIP008Server.endpoint, ServerEndpoint.zero]

end Formats

def sampleSIP008 (host : GoString) : SIP008Server := ⟨host, 443, [], [], []⟩

theorem domain_kept :
    Leads bytewiseTables [(sampleSIP008 (lit "example.com")).endpoint] 0 (lit "example.com") 443 :=
  ((subscribed_host_kept_iff rfl (by decide) (by decide)).2.2 (sampleSIP008 (lit "example.com"))
    rfl rfl rfl).mpr (by decide)

/-- The literal of an IPv6 address is not: the outbound has an address that can not be split. -/
theorem ipv6_host_lost :
    ¬Leads bytewiseTables [(sampleSIP008 (lit "2001:db8::1")).endpoint] 0 (lit "2001:db8::1")
      443 := by
  intro ⟨config, converted, carries⟩
  cases converted
  have ⟨addr, listed, split⟩ := (if_pos rfl).mp carries
  cases listed
  exact absurd split (by decide)

end Shuttle.Subscription
