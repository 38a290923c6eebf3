import Shuttle.Go.Base64
import Shuttle.Go.Format
import Shuttle.Go.JSON
import Mathlib.Data.List.DropRight

/-!
# Import of server lists

`config.ImportConfig` reads native server lists, and `ParseSubscription` reads the formats of other
programs before it hands the text to `ImportConfig`: Clash YAML, sing-box JSON and SIP008. The YAML
reader and the `shuttle://` forms are parameters; what is decoded from JSON follows the source field
by field.
-/

namespace Shuttle.Subscription

open Shuttle.Go

structure ServerEndpoint where
  addr : GoString
  name : GoString
  password : GoString
  sni : GoString
  type : GoString
  options : Option (GoMap GoString Json)

def ServerEndpoint.zero : ServerEndpoint := ⟨[], [], [], [], [], none⟩

structure Formats where
  /-- `encoding/json`. -/
  json : JSONReader
  /-- Number of Clash proxies that the YAML reader finds, zero if it fails. -/
  proxies : GoString → Nat
  /-- `parseClash`. -/
  clash : GoString → Except GoString (List ServerEndpoint)
  /-- The `shuttle://` forms of `ImportConfig`. -/
  uris : GoString → Except GoString (List ServerEndpoint)

def field {σ α : Type} (name : String) (get : σ → α) (put : σ → α → σ) (decoder : Decoder α) :
    Decoder.Field σ :=
  ⟨lit name, fun value doc => (decoder (get value) doc).map (put value)⟩

variable (formats : Formats)

/-! ## `ImportConfig` -/

def endpointFields : List (Decoder.Field ServerEndpoint) :=
  [field "addr" (·.addr) (fun server text => { server with addr := text }) Decoder.text,
    field "name" (·.name) (fun server text => { server with name := text }) Decoder.text,
    field "password" (·.password) (fun server text => { server with password := text })
      Decoder.text,
    field "sni" (·.sni) (fun server text => { server with sni := text }) Decoder.text,
    field "type" (·.type) (fun server text => { server with type := text }) Decoder.text,
    field "options" (·.options) (fun server options => { server with options := options })
      Decoder.members]

def decodeEndpoint : Decoder ServerEndpoint :=
  Decoder.record formats.json.fold endpointFields

def decodeEndpoints : Decoder (List ServerEndpoint) :=
  Decoder.list (decodeEndpoint formats) .zero

structure Wrapped where
  servers : List ServerEndpoint
  server : ServerEndpoint

def decodeWrapped : Decoder Wrapped :=
  Decoder.record formats.json.fold
    [field "servers" (·.servers) (fun wrapped servers => { wrapped with servers := servers })
        (decodeEndpoints formats),
      field "server" (·.server) (fun wrapped server => { wrapped with server := server })
        (decodeEndpoint formats)]

def filterValidServers (servers : List ServerEndpoint) : List ServerEndpoint :=
  servers.filter fun server => server.addr ≠ []

variable (data : GoString) (doc : Json)

def wrappedServers : Except GoString (List ServerEndpoint) :=
  match decodeWrapped formats ⟨[], .zero⟩ doc with
  | some wrapped =>
    if 0 < wrapped.servers.length then .ok (filterValidServers wrapped.servers)
    else if wrapped.server.addr ≠ [] then .ok [wrapped.server]
    else .error (lit "invalid JSON format")
  | none => .error (lit "invalid JSON format")

/-- The servers of a document: an array, a single server or a wrapping object. -/
def importDoc : Except GoString (List ServerEndpoint) :=
  match decodeEndpoints formats [] doc with
  | some servers => .ok (filterValidServers servers)
  | none =>
    match decodeEndpoint formats .zero doc with
    | some server => if server.addr ≠ [] then .ok [server] else wrappedServers formats doc
    | none => wrappedServers formats doc

def parseJSON : Except GoString (List ServerEndpoint) :=
  match formats.json.parse (trimSpace data) with
  | some doc => importDoc formats doc
  | none => .error (lit "invalid JSON format")

def tryBase64Decode : Option GoString :=
  (Base64.std.decodeString data).or ((Base64.url.decodeString data).or
    ((Base64.rawStd.decodeString data).or (Base64.rawURL.decodeString data)))

def contains (text part : GoString) : Bool := text.tails.any part.isPrefixOf

def importConfig (text : GoString) : Except GoString (List ServerEndpoint) :=
  let data := trimSpace text
  if data = [] then .error (lit "empty input")
  else if (lit "shuttle://").isPrefixOf data || contains data (lit "\nshuttle://") then
    formats.uris data
  else
    match parseJSON formats ((tryBase64Decode data).getD data) with
    | .ok servers => .ok servers
    | .error message => .error (lit "failed to parse config: " ++ message)

/-! ## `ParseSubscription` -/

/-- Remove trailing bytes of a set, as in `strings.TrimRight`. -/
def trimRight (text cutset : GoString) : GoString :=
  text.rdropWhile cutset.contains

/-- A line of the text starts with the key of Clash's list. -/
def containsProxiesKey : Bool :=
  (splitByte 0x0a data).any fun line =>
    (lit "proxies:").isPrefixOf (trimRight line (lit " \t\r"))

def isClashFormat : Bool :=
  containsProxiesKey data && decide (0 < formats.proxies data)

def hasOutbounds : Json → Bool
  | .object members => members.any fun member => member.1 = lit "outbounds"
  | _ => false

def isSingboxFormat : Bool := (formats.json.parse data).any hasOutbounds

/-- A number as `%d` prints it. -/
def formatInt (value : Int) : GoString :=
  if value < 0 then 0x2d :: formatDecimal value.natAbs else formatDecimal value.natAbs

/-- An address as `%s:%d` prints it. -/
def formatAddr (server : GoString) (port : Int) : GoString := server ++ colon :: formatInt port

/-- The fields of an outbound that are promoted to a server's. -/
structure SingboxOutbound where
  type : GoString
  tag : GoString
  server : GoString
  serverPort : Int
  password : GoString
  uuid : GoString

def decodeOutbound : Decoder SingboxOutbound :=
  Decoder.record formats.json.fold
    [field "type" (·.type) (fun base text => { base with type := text }) Decoder.text,
      field "tag" (·.tag) (fun base text => { base with tag := text }) Decoder.text,
      field "server" (·.server) (fun base text => { base with server := text }) Decoder.text,
      field "server_port" (·.serverPort) (fun base port => { base with serverPort := port })
        Decoder.int,
      field "password" (·.password) (fun base text => { base with password := text }) Decoder.text,
      field "uuid" (·.uuid) (fun base text => { base with uuid := text }) Decoder.text]

def skipOutboundTypes : List GoString :=
  [lit "direct", lit "block", lit "dns", lit "selector", lit "urltest"]

def singboxPromotedFields : List GoString :=
  [lit "type", lit "tag", lit "server", lit "server_port", lit "password", lit "uuid"]

def tlsServerName (full : GoMap GoString Json) : GoString :=
  match full (lit "tls") with
  | some (.object tls) =>
    match (GoMap.ofList tls) (lit "server_name") with
    | some (.string text) => text
    | _ => []
  | _ => []

def singboxOptions : Json → List (GoString × Json)
  | .object members => members.filter fun member => member.1 ∉ singboxPromotedFields
  | _ => []

def singboxEndpoint (raw : Json) : Option ServerEndpoint :=
  match decodeOutbound formats ⟨[], [], [], 0, [], []⟩ raw with
  | none => none
  | some base =>
    if base.type ∈ skipOutboundTypes then none
    else if base.server = [] ∨ base.serverPort = 0 then none
    else
      match Decoder.members none raw with
      | none => none
      | some full =>
        some {
          addr := formatAddr base.server base.serverPort
          name := base.tag
          password := if base.password = [] then base.uuid else base.password
          sni := tlsServerName (full.getD GoMap.empty)
          type := base.type
          options :=
            if (singboxOptions raw).isEmpty then none
            else some (GoMap.ofList (singboxOptions raw)) }

def decodeOutbounds : Decoder (List Json) :=
  Decoder.record formats.json.fold
    [field "outbounds" id (fun _ outbounds => outbounds) (Decoder.list Decoder.raw .null)]

def singboxDoc : Except GoString (List ServerEndpoint) :=
  match decodeOutbounds formats [] doc with
  | some outbounds => .ok (outbounds.filterMap (singboxEndpoint formats))
  | none => .error (lit "parse sing-box JSON")

def parseSingbox : Except GoString (List ServerEndpoint) :=
  match formats.json.parse data with
  | some doc => singboxDoc formats doc
  | none => .error (lit "parse sing-box JSON")

structure SIP008Server where
  server : GoString
  serverPort : Int
  password : GoString
  method : GoString
  remarks : GoString

structure SIP008 where
  version : Int
  servers : List SIP008Server

def decodeSIP008Server : Decoder SIP008Server :=
  Decoder.record formats.json.fold
    [field "server" (·.server) (fun entry text => { entry with server := text }) Decoder.text,
      field "server_port" (·.serverPort) (fun entry port => { entry with serverPort := port })
        Decoder.int,
      field "password" (·.password) (fun entry text => { entry with password := text })
        Decoder.text,
      field "method" (·.method) (fun entry text => { entry with method := text }) Decoder.text,
      field "remarks" (·.remarks) (fun entry text => { entry with remarks := text }) Decoder.text]

def sip008Fields : List (Decoder.Field SIP008) :=
  [field "version" (·.version) (fun list version => { list with version := version }) Decoder.int,
    field "servers" (·.servers) (fun list servers => { list with servers := servers })
      (Decoder.list (decodeSIP008Server formats) ⟨[], 0, [], [], []⟩)]

def decodeSIP008 : Decoder SIP008 :=
  Decoder.record formats.json.fold (sip008Fields formats)

def SIP008Server.endpoint (entry : SIP008Server) : ServerEndpoint :=
  { ServerEndpoint.zero with
    addr := formatAddr entry.server entry.serverPort
    name := entry.remarks
    password := entry.password }

/-- The servers of a document in the SIP008 format, none if it is not in the format. -/
def sip008Doc : Option (List ServerEndpoint) :=
  (decodeSIP008 formats ⟨0, []⟩ doc).bind fun list =>
    if list.servers.length = 0 then none else some (list.servers.map SIP008Server.endpoint)

/-- `parseSIP008`; its error is not looked at. -/
def parseSIP008 : Option (List ServerEndpoint) :=
  (formats.json.parse data).bind (sip008Doc formats)

/-- The formats in the order in which `ParseSubscription` tries them. -/
def parseContent (content : GoString) : Except GoString (List ServerEndpoint) :=
  if isClashFormat formats content then formats.clash content
  else if isSingboxFormat formats content then parseSingbox formats content
  else
    match parseSIP008 formats content with
    | some servers => .ok servers
    | none => importConfig formats content

def parseSubscription (text : GoString) : Except GoString (List ServerEndpoint) :=
  let content := trimSpace text
  if content = [] then .error (lit "empty content")
  else
    parseContent formats (((Base64.std.decodeString content).or
      (Base64.rawStd.decodeString content)).getD content)

end Shuttle.Subscription
