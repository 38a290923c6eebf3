import Shuttle.Subscription.Agreement

/-!
# Export and import of servers

`ExportConfig` writes the configuration as JSON, or its servers as `shuttle://` URIs, and
`ImportConfig` reads servers back: the saved ones of a configuration, or else the active one. What
`encoding/json` and `net/url` write, they are assumed to read back.
-/

namespace Shuttle.Export

open Shuttle.Go Shuttle.Subscription List

structure Server where
  addr : GoString
  name : GoString
  password : GoString
  sni : GoString
  type : GoString
  /-- The entries of the options, none for a nil map as for an empty one. -/
  options : List (GoString × Json)
  inRange : Json.membersInRange options = true

def Server.endpoint (server : Server) : ServerEndpoint :=
  ⟨server.addr, server.name, server.password, server.sni, server.type,
    if server.options.isEmpty then none else some (GoMap.ofList server.options)⟩

/-- Names of the other members of a configuration in JSON. -/
def otherTags : List GoString :=
  [lit "subscriptions", lit "transport", lit "proxy", lit "routing", lit "qos", lit "congestion",
    lit "retry", lit "mesh", lit "obfs", lit "yamux", lit "log", lit "ui", lit "inbounds",
    lit "outbounds", lit "proxy_providers", lit "rule_providers", lit "allow_private_networks"]

structure ClientConfig where
  version : Int
  server : Server
  servers : List Server
  others : List (GoString × Json)
  named : ∀ member ∈ others, member.1 ∈ otherTags

def ClientConfig.all (config : ClientConfig) : List Server := config.server :: config.servers

/-! ## Export -/

/-- A server in JSON; an empty type and empty options are omitted. -/
def Server.doc (server : Server) : Json :=
  .object ([(lit "addr", .string server.addr), (lit "name", .string server.name),
    (lit "password", .string server.password), (lit "sni", .string server.sni)] ++
    (if server.type.isEmpty then [] else [(lit "type", .string server.type)]) ++
    if server.options.isEmpty then [] else [(lit "options", .object server.options)])

def ClientConfig.doc (config : ClientConfig) : Json :=
  .object ([(lit "version", .number (some config.version) true),
    (lit "server", config.server.doc)] ++
    (if config.servers.isEmpty then []
      else [(lit "servers", .array (config.servers.map Server.doc))]) ++ config.others)

structure URL where
  scheme : GoString
  user : Option (GoString × Option GoString)
  host : GoString
  query : List (GoString × GoString)

def Server.url (server : Server) : URL where
  scheme := lit "shuttle"
  user := if server.password = [] then none else some (server.password, none)
  host := server.addr
  query := (if server.name ≠ [] ∧ server.name ≠ server.addr then [(lit "name", server.name)]
    else []) ++ if server.sni = [] then [] else [(lit "sni", server.sni)]

/-- The servers that `exportAsURIs` writes: an active one without address is left out. -/
def ClientConfig.listed (config : ClientConfig) : List Server :=
  (if config.server.addr = [] then [] else [config.server]) ++ config.servers

/-! ## Import of URIs -/

/-- The readers behind the `shuttle://` forms. -/
structure URIReader where
  /-- `url.Parse` with the query. -/
  parse : GoString → Option URL
  share : GoString → Option ServerEndpoint

section Model

variable (reader : URIReader)

variable (data : GoString)

/-- `DecodeShareURI` with the server of `ShareURIToClientConfig`. -/
def decodeShareURI : Option ServerEndpoint :=
  (tryBase64Decode (trimSpace (data.drop (lit "shuttle://").length))).bind reader.share

/-- The first value of a query parameter, empty if there is none. -/
def URL.get (url : URL) (key : GoString) : GoString := (url.query.lookup key).getD []

/-- The server of a URL in `parseShuttleURI`. -/
def URL.server (url : URL) : Option ServerEndpoint :=
  if url.scheme ≠ lit "shuttle" ∨ url.host = [] then none
  else
    let name := url.get (lit "name")
    some { ServerEndpoint.zero with
      addr := url.host
      password := match url.user with
        | none => []
        | some (username, password) => password.getD username
      name := if name = [] then url.host else name
      sni := url.get (lit "sni") }

/-- A line of `parseShuttleURIs`; a line that is no server is reported and left out. -/
def lineServer (line : GoString) : Option ServerEndpoint :=
  let line := trimSpace line
  if line = [] ∨ (lit "#").isPrefixOf line ∨ ¬(lit "shuttle://").isPrefixOf line then none
  else (reader.parse line).bind URL.server

def parseShuttleURIs : Except GoString (List ServerEndpoint) :=
  match (splitByte 0x0a data).filterMap (lineServer reader) with
  | [] => .error (lit "no valid servers found")
  | servers => .ok servers

def importURIs : Except GoString (List ServerEndpoint) :=
  if 0x0a ∈ data then parseShuttleURIs reader data
  else match decodeShareURI reader data with
    | some server => .ok [server]
    | none => parseShuttleURIs reader data

end Model

/-! ## What is assumed of the encoders -/

structure URIReader.Writes (reader : URIReader) (url : URL) (text : GoString) : Prop where
  parse : reader.parse text = some url
  scheme : url.scheme ++ lit "://" <+: text
  printable : ∀ byte ∈ text, 0x20 < byte ∧ byte < 0x7f
  colon : colon ∈ url.host → colon ∈ text.drop (url.scheme.length + 3)

inductive ExportFormat where
  | json
  | uri

def ExportedAs (formats : Formats) (reader : URIReader) (config : ClientConfig) :
    ExportFormat → GoString → Prop
  | .json, text => formats.json.parse text = some config.doc
  | .uri, text => ∃ write : URL → GoString,
      (∀ server ∈ config.listed, reader.Writes server.url (write server.url)) ∧ text =
        joinByte 0x0a (config.listed.map fun server => write server.url)

/-- Readers with the URI forms of the model, whose folding does not confuse the names of members
with those of fields that are read. -/
structure Reads (formats : Formats) (reader : URIReader) : Prop where
  uris : formats.uris = importURIs reader
  endpoint : ∀ tag ∈ lit "version" :: lit "server" :: lit "servers" :: otherTags,
    ∀ field ∈ endpointFields, formats.json.fold field.name ≠ formats.json.fold tag
  wrapped : ∀ tag ∈ lit "version" :: otherTags, ∀ name ∈ [lit "servers", lit "server"],
    formats.json.fold name ≠ formats.json.fold tag

/-- An address with a port, and a name other than the address. -/
structure Server.Addressed (server : Server) : Prop where
  addr : colon ∈ server.addr
  name : server.name ≠ []
  other : server.name ≠ server.addr

/-- What the format keeps: JSON the active server if none are saved, a URI a server of the native
type without options. -/
def Survives (config : ClientConfig) : ExportFormat → Prop
  | .json => config.servers = []
  | .uri => ∀ server ∈ config.all, server.type = [] ∧ server.options = []

section Proofs

variable {formats : Formats} {reader : URIReader} {config : ClientConfig} {server : Server}

theorem record_append {σ : Type} {fold : GoString → GoString} {fields : List (Decoder.Field σ)}
    (old : σ) (front rest : List (GoString × Json)) :
    Decoder.record fold fields old (.object (front ++ rest)) =
      (Decoder.record fold fields old (.object front)).bind
        fun value => Decoder.record fold fields value (.object rest) := by
  simp [Decoder.record]

variable {members : List (GoString × Json)}

theorem record_foreign {σ : Type} {fold : GoString → GoString} {fields : List (Decoder.Field σ)}
    (old : σ) (foreign : ∀ member ∈ members, ∀ field ∈ fields, fold field.name ≠ fold member.1) :
    Decoder.record fold fields old (.object members) = some old := by
  induction members with
  | nil => rfl
  | cons member members ih =>
    have unknown : Decoder.fieldOf fold fields member.1 = none := by
      rw [Option.eq_none_iff_forall_ne_some]
      intro field found
      have ⟨listed, same⟩ := Decoder.fieldOf_spec found
      exact foreign member mem_cons_self field listed same
    have rest := ih fun other listed => foreign other (mem_cons_of_mem _ listed)
    rw [Decoder.record] at rest ⊢
    rw [foldlM_cons, unknown]
    exact rest

theorem list_map {α β : Type} {element : Decoder β} {zero : β} {doc : α → Json} {value : α → β}
    (reads : ∀ item, element zero (doc item) = some (value item)) (items : List α) :
    Decoder.list element zero [] (.array (items.map doc)) = some (items.map value) := by
  have from_any (start : Nat) : ((items.map doc).zipIdx start).mapM
      (fun entry => element (([] : List β).getD entry.2 zero) entry.1) =
        some (items.map value) := by
    induction items generalizing start with
    | nil => rfl
    | cons item items ih =>
      simp only [map_cons, zipIdx_cons, mapM_cons, ih]
      simp [reads]
  exact from_any 0

/-! ## JSON -/

theorem decodeEndpoint_doc (server : Server) :
    decodeEndpoint formats .zero server.doc = some server.endpoint := by
  have kind (type : GoString) : Decoder.record formats.json.fold endpointFields
      ⟨server.addr, server.name, server.password, server.sni, [], none⟩
      (.object (if type.isEmpty then [] else [(lit "type", .string type)])) =
        some ⟨server.addr, server.name, server.password, server.sni, type, none⟩ := by
    cases type <;> rfl
  rw [decodeEndpoint, Server.doc, record_append]
  refine (congrArg (Option.bind · _) (kind server.type)).trans ?_
  rw [Server.endpoint]
  split
  · rfl
  have reads : Decoder.members none (.object server.options) =
      some (some (GoMap.ofList server.options)) := by
    rw [Decoder.members, if_pos server.inRange]
    rfl
  change ((Decoder.members none (.object server.options)).map fun options =>
    (⟨server.addr, server.name, server.password, server.sni, server.type, options⟩ :
      ServerEndpoint)).bind some = _
  rw [reads]
  rfl

theorem decodeEndpoint_config (reads : Reads formats reader) (config : ClientConfig) :
    decodeEndpoint formats .zero config.doc = some .zero := by
  refine record_foreign ServerEndpoint.zero fun member listed field stated => ?_
  refine reads.endpoint member.1 ?_ field stated
  have named := config.named member
  grind

theorem decodeWrapped_foreign (reads : Reads formats reader)
    (listed : ∀ member ∈ members, member.1 ∈ lit "version" :: otherTags) (old : Wrapped) :
    decodeWrapped formats old (.object members) = some old := by
  refine record_foreign old fun member found field stated => ?_
  exact reads.wrapped member.1 (listed member found) field.name (mem_map_of_mem stated)

theorem decodeWrapped_servers (old : Wrapped) (empty : old.servers = []) (servers : List Server) :
    decodeWrapped formats old (.object (if servers.isEmpty then []
      else [(lit "servers", .array (servers.map Server.doc))])) =
        some { old with servers := servers.map Server.endpoint } := by
  split
  · rename_i none
    rw [isEmpty_iff.mp none, map_nil, ← empty]
    rfl
  · change ((decodeEndpoints formats old.servers _).map fun servers =>
      { old with servers := servers }).bind some = _
    rw [empty, decodeEndpoints, list_map decodeEndpoint_doc]
    rfl

theorem decodeWrapped_append (old : Wrapped) (front rest : List (GoString × Json)) :
    decodeWrapped formats old (.object (front ++ rest)) =
      (decodeWrapped formats old (.object front)).bind
        fun value => decodeWrapped formats value (.object rest) :=
  record_append old front rest

theorem decodeWrapped_doc (reads : Reads formats reader) (config : ClientConfig) :
    decodeWrapped formats ⟨[], .zero⟩ config.doc =
      some ⟨config.servers.map Server.endpoint, config.server.endpoint⟩ := by
  have active : decodeWrapped formats ⟨[], .zero⟩
      (.object [(lit "server", config.server.doc)]) = some ⟨[], config.server.endpoint⟩ := by
    change ((decodeEndpoint formats .zero config.server.doc).map fun server =>
      (⟨[], server⟩ : Wrapped)).bind some = _
    rw [decodeEndpoint_doc]
    rfl
  have first (version : Json) : decodeWrapped formats ⟨[], .zero⟩
      (.object [(lit "version", version), (lit "server", config.server.doc)]) =
        some ⟨[], config.server.endpoint⟩ := by
    rw [← singleton_append, decodeWrapped_append, decodeWrapped_foreign reads (by simp),
      Option.bind_some, active]
  rw [ClientConfig.doc, decodeWrapped_append, decodeWrapped_append, first, Option.bind_some,
    decodeWrapped_servers _ rfl, Option.bind_some, decodeWrapped_foreign reads]
  exact fun member listed => mem_cons_of_mem _ (config.named member listed)

theorem importDoc_doc (reads : Reads formats reader)
    (addressed : ∀ server ∈ config.all, server.Addressed) :
    importDoc formats config.doc = .ok (if config.servers = [] then [config.server.endpoint]
      else config.servers.map Server.endpoint) := by
  have solid : ∀ server ∈ config.all, server.addr ≠ [] :=
    fun server listed => ne_nil_of_mem (addressed server listed).addr
  have valid : filterValidServers (config.servers.map Server.endpoint) =
      config.servers.map Server.endpoint := by
    refine filter_eq_self.mpr fun endpoint listed => decide_eq_true ?_
    have ⟨server, saved, same⟩ := mem_map.mp listed
    exact same ▸ solid server (mem_cons_of_mem _ saved)
  have alone : wrappedServers formats config.doc = .ok (if config.servers = [] then
      [config.server.endpoint] else config.servers.map Server.endpoint) := by
    simp only [wrappedServers, decodeWrapped_doc reads, valid]
    by_cases none : config.servers = []
    · have active : config.server.endpoint.addr ≠ [] := solid _ mem_cons_self
      simp [none, active]
    · simp [none]
  simp only [importDoc, decodeEndpoint_config reads, alone]
  exact if_neg (fun absent => absent rfl)

/-! ## URIs -/

def Server.viaURI (server : Server) : ServerEndpoint :=
  { server.endpoint with type := [], options := none }

theorem Server.Addressed.url_server (addressed : server.Addressed) :
    server.url.server = some server.viaURI := by
  have solid : server.addr ≠ [] := ne_nil_of_mem addressed.addr
  have different : (lit "sni" == lit "name") = false := by decide +kernel
  by_cases sni : server.sni = [] <;> by_cases password : server.password = [] <;>
    simp [URL.server, Server.url, URL.get, Server.viaURI, Server.endpoint, ServerEndpoint.zero,
      addressed.name, addressed.other, solid, sni, password, lookup_cons, different]

theorem lineServer_of_writes {text : GoString} (addressed : server.Addressed)
    (written : reader.Writes server.url text) : lineServer reader text = some server.viaURI := by
  have ⟨rest, whole⟩ := written.scheme
  have begins : (lit "shuttle://").isPrefixOf text = true :=
    List.isPrefixOf_iff_prefix.mpr ⟨rest, whole⟩
  have plain : (lit "#").isPrefixOf text = false := by
    rw [← whole]
    rfl
  have solid : text ≠ [] := by
    rw [← whole]
    nofun
  simp [lineServer, trimSpace_printable written.printable, begins, plain, solid, written.parse,
    addressed.url_server]

theorem decodeShareURI_of_writes {text : GoString} (addressed : server.Addressed)
    (written : reader.Writes server.url text) : decodeShareURI reader text = none := by
  have inside := written.colon addressed.addr
  have trimmed : trimSpace (text.drop (lit "shuttle://").length) =
      text.drop (lit "shuttle://").length :=
    trimSpace_printable fun byte listed => written.printable byte (mem_of_mem_drop listed)
  -- the colon of the address is a digit of no encoding
  have undecoded {base64 : Base64} (foreign : colon ∉ base64.alphabet) :
      base64.decodeString (text.drop (lit "shuttle://").length) = none :=
    Base64.decodeString_eq_none inside foreign (by decide)
  have std : colon ∉ Base64.std.alphabet := by decide +kernel
  have url : colon ∉ Base64.url.alphabet := by decide +kernel
  have rawStd : Base64.rawStd.decodeString (text.drop (lit "shuttle://").length) = none :=
    undecoded std
  have rawURL : Base64.rawURL.decodeString (text.drop (lit "shuttle://").length) = none :=
    undecoded url
  simp [decodeShareURI, trimmed, tryBase64Decode, undecoded std, undecoded url, rawStd, rawURL]

theorem joinByte_ends {separator : UInt8} {lines : List GoString} {byte : UInt8}
    (solid : ∀ line ∈ lines, line ≠ [])
    (atEnd : (joinByte separator lines).head? = some byte ∨
      (joinByte separator lines).getLast? = some byte) : ∃ line ∈ lines, byte ∈ line := by
  fun_induction joinByte separator lines with
  | case1 => simp at atEnd
  | case2 line =>
    refine ⟨line, mem_cons_self, ?_⟩
    exact atEnd.elim mem_of_head? mem_of_getLast?
  | case3 line next rest ih =>
    rcases atEnd with first | last
    · rw [List.head?_append_of_ne_nil _ (solid line mem_cons_self)] at first
      exact ⟨line, mem_cons_self, mem_of_head? first⟩
    · have some : joinByte separator (next :: rest) ≠ [] := by
        cases rest <;> simp [joinByte, solid next]
      rw [List.getLast?_append_cons, List.getLast?_cons_of_ne_nil some] at last
      obtain ⟨other, listed, inside⟩ :=
        ih (fun other listed => solid other (by simp_all)) (.inr last)
      exact ⟨other, mem_cons_of_mem _ listed, inside⟩

section Lines

variable {line : Server → GoString} {servers : List Server}

theorem parseShuttleURIs_lines (addressed : ∀ server ∈ servers, server.Addressed)
    (written : ∀ server ∈ servers, reader.Writes server.url (line server)) (some : servers ≠ []) :
    parseShuttleURIs reader (joinByte 0x0a (servers.map line)) =
      .ok (servers.map Server.viaURI) := by
  have plain : ∀ text ∈ servers.map line, 0x0a ∉ text := by
    intro text listed inside
    have ⟨server, member, same⟩ := mem_map.mp listed
    exact absurd ((written server member).printable _ (same ▸ inside)).1 (by decide)
  have read : (servers.map line).filterMap (lineServer reader) = servers.map Server.viaURI := by
    rw [filterMap_map, ← filterMap_eq_map]
    exact filterMap_congr fun server member =>
      lineServer_of_writes (addressed server member) (written server member)
  rw [parseShuttleURIs, splitByte_joinByte (by simpa using some) plain, read]
  cases servers with
  | nil => exact absurd rfl some
  | cons server rest => rfl

theorem importURIs_lines (addressed : ∀ server ∈ servers, server.Addressed)
    (written : ∀ server ∈ servers, reader.Writes server.url (line server)) (some : servers ≠ []) :
    importURIs reader (joinByte 0x0a (servers.map line)) = .ok (servers.map Server.viaURI) := by
  have parsed := parseShuttleURIs_lines addressed written some
  rw [importURIs, parsed]
  match servers with
  | [] => exact absurd rfl some
  | [server] =>
    -- a single line is tried as a share link first
    have share := decodeShareURI_of_writes (addressed server mem_cons_self)
      (written server mem_cons_self)
    simp only [map_cons, map_nil, joinByte, share, ite_self]
  | server :: next :: rest => exact if_pos (by simp [joinByte])

theorem importConfig_uris (reads : Reads formats reader)
    (addressed : ∀ server ∈ servers, server.Addressed)
    (written : ∀ server ∈ servers, reader.Writes server.url (line server)) (some : servers ≠ []) :
    importConfig formats (joinByte 0x0a (servers.map line)) = .ok (servers.map Server.viaURI) := by
  have solid : ∀ text ∈ servers.map line, text ≠ [] := by
    intro text listed none
    have ⟨server, member, same⟩ := mem_map.mp listed
    have ⟨rest, whole⟩ := (written server member).scheme
    rw [same, none] at whole
    cases whole
  have printable {byte : UInt8} (inside : ∃ text ∈ servers.map line, byte ∈ text) :
      0x20 < byte ∧ byte < 0x7f := by
    have ⟨text, listed, inside⟩ := inside
    have ⟨server, member, same⟩ := mem_map.mp listed
    exact (written server member).printable byte (same ▸ inside)
  have trimmed : trimSpace (joinByte 0x0a (servers.map line)) = joinByte 0x0a (servers.map line) :=
    trimSpace_of_ends (fun _ head => printable (joinByte_ends solid (.inl head)))
      (fun _ last => printable (joinByte_ends solid (.inr last)))
  have begins : lit "shuttle://" <+: joinByte 0x0a (servers.map line) := by
    cases servers with
    | nil => exact absurd rfl some
    | cons server rest =>
      have first : line server <+: joinByte 0x0a ((server :: rest).map line) := by
        cases rest with
        | nil => exact prefix_rfl
        | cons next more => exact prefix_append _ _
      exact (written server mem_cons_self).scheme.trans first
  have text_solid : joinByte 0x0a (servers.map line) ≠ [] := by
    intro none
    rw [none] at begins
    cases prefix_nil.mp begins
  simp only [importConfig, trimmed, if_neg text_solid, List.isPrefixOf_iff_prefix.mpr begins,
    Bool.true_or, if_true, reads.uris, importURIs_lines addressed written some]

end Lines

/-- What is exported is imported again, all servers with all fields, exactly for a JSON export
without saved servers, and a URI export of servers without type and options. -/
theorem import_export_iff (formats : Formats) (reader : URIReader) (reads : Reads formats reader)
    (config : ClientConfig) (addressed : ∀ server ∈ config.all, server.Addressed)
    (format : ExportFormat) (text : GoString)
    (exported : ExportedAs formats reader config format text) :
    importConfig formats text = .ok (config.all.map Server.endpoint) ↔ Survives config format := by
  cases format with
  | json =>
    rw [importConfig_ok_iff exported rfl, importDoc_doc reads addressed, Survives, ClientConfig.all]
    constructor
    · intro same
      by_contra saved
      rw [if_neg saved] at same
      have lengths := congrArg List.length (Except.ok.inj same)
      simp at lengths
    · intro none
      rw [none]
      rfl
  | uri =>
    have ⟨write, written, joined⟩ := exported
    have active : config.server.addr ≠ [] :=
      ne_nil_of_mem (addressed _ mem_cons_self).addr
    have listed : config.listed = config.all := by
      rw [ClientConfig.listed, if_neg active]
      rfl
    rw [listed] at written joined
    rw [joined, importConfig_uris reads addressed written (cons_ne_nil _ _)]
    constructor
    · intro same server member
      have fields := map_inj_left.mp (Except.ok.inj same) server member
      simp only [Server.viaURI, Server.endpoint, ServerEndpoint.mk.injEq, true_and] at fields
      refine ⟨fields.1.symm, ?_⟩
      by_contra some
      simp [some] at fields
    · intro plain
      refine congrArg _ (map_congr_left fun server member => ?_)
      simp [Server.viaURI, Server.endpoint, plain server member]

def named (addr name : GoString) : Server := ⟨addr, name, [], [], [], [], rfl⟩

def homeURI : GoString := lit "shuttle://a:1?name=home"

def homeReader : URIReader where
  parse text := if text = homeURI then some (named (lit "a:1") (lit "home")).url else none
  share _ := none

/-- Readers that accept one JSON text and one URL alone. -/
def textFormats (text : GoString) (doc : Json) (readable : Readable text) : Formats :=
  { formatsOf text doc readable with uris := importURIs homeReader }

theorem reads_textFormats (text : GoString) (doc : Json) (readable : Readable text) :
    Reads (textFormats text doc readable) homeReader := by
  have endpoint : ∀ tag ∈ lit "version" :: lit "server" :: lit "servers" :: otherTags,
      ∀ field ∈ endpointFields, field.name ≠ tag := by
    decide +kernel
  have wrapped : ∀ tag ∈ lit "version" :: otherTags,
      ∀ name ∈ [lit "servers", lit "server"], name ≠ tag := by
    decide +kernel
  exact ⟨rfl, endpoint, wrapped⟩

def homeText : GoString :=
  lit "\x7b\"version\":1,\"server\":\x7b\"addr\":\"a:1\",\"name\":\"home\"," ++
    lit "\"password\":\"\",\"sni\":\"\"\x7d\x7d"

def homeConfig : ClientConfig := ⟨1, named (lit "a:1") (lit "home"), [], [], nofun⟩

theorem homeText_readable : Readable homeText :=
  (readable_iff _).mpr (by decide +kernel)

theorem home_addressed : (named (lit "a:1") (lit "home")).Addressed :=
  ⟨by decide, by decide, by decide⟩

theorem import_export_home :
    let imported := importConfig (textFormats homeText homeConfig.doc homeText_readable)
    let servers := homeConfig.all.map Server.endpoint
    imported homeText = .ok servers ∧ imported homeURI = .ok servers := by
  have both := import_export_iff _ _ (reads_textFormats homeText homeConfig.doc homeText_readable)
    homeConfig fun _ listed => mem_singleton.mp listed ▸ home_addressed
  have written : ∀ server ∈ homeConfig.listed, homeReader.Writes server.url homeURI := by
    intro server listed
    cases mem_singleton.mp listed
    exact ⟨rfl, ⟨lit "a:1?name=home", rfl⟩, by simp [homeURI, lit], fun _ => by decide⟩
  refine ⟨(both .json homeText (formatsOf_parse homeText _ homeText_readable)).mpr rfl,
    (both .uri homeURI ⟨fun _ => homeURI, written, rfl⟩).mpr fun server listed => ?_⟩
  cases mem_singleton.mp listed
  exact ⟨rfl, rfl⟩

def officeConfig : ClientConfig := { homeConfig with servers := [named (lit "b:2") (lit "office")] }

def officeText : GoString :=
  homeText.dropLast ++ lit ",\"servers\":[\x7b\"addr\":\"b:2\",\"name\":\"office\"," ++
    lit "\"password\":\"\",\"sni\":\"\"\x7d]\x7d"

theorem officeText_readable : Readable officeText :=
  (readable_iff _).mpr (by decide +kernel)

theorem active_server_lost :
    (∀ server ∈ officeConfig.all, server.Addressed) ∧
      importConfig (textFormats officeText officeConfig.doc officeText_readable) officeText ≠
        .ok (officeConfig.all.map Server.endpoint) := by
  have office : (named (lit "b:2") (lit "office")).Addressed :=
    ⟨by decide, by decide, by decide⟩
  have addressed : ∀ server ∈ officeConfig.all, server.Addressed := by
    simp [ClientConfig.all, officeConfig, homeConfig, home_addressed, office]
  refine ⟨addressed, fun same => ?_⟩
  have read : (textFormats officeText officeConfig.doc officeText_readable).json.parse officeText =
      some officeConfig.doc :=
    formatsOf_parse officeText _ officeText_readable
  rw [importConfig_ok_iff read rfl] at same
  exact absurd (congrArg List.length (Except.ok.inj same)) (by decide)

end Proofs

end Shuttle.Export
