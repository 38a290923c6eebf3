import Shuttle.Go.Format
import Shuttle.Lib.Session

/-!
# The SOCKS5 inbound

`proxy/socks5.go` negotiates a method, checks a username and password when a username is configured,
reads one request and dials its target or serves a UDP association. The model runs the handler over
everything a client sends and records what it answers; of a dial only success and the local address
matter.
-/

namespace Shuttle.Proxy

open Shuttle.Go Shuttle.Lib

def socks5Version : UInt8 := 0x05

def authNone : UInt8 := 0x00

def authPassword : UInt8 := 0x02

def cmdConnect : UInt8 := 0x01

def cmdUDPAssociate : UInt8 := 0x03

def atypIPv4 : UInt8 := 0x01

def atypDomain : UInt8 := 0x03

def atypIPv6 : UInt8 := 0x04

def repSuccess : UInt8 := 0x00

def repHostUnreach : UInt8 := 0x04

def repCmdNotSupported : UInt8 := 0x07

def repAddrNotSupported : UInt8 := 0x08

/-- Credentials of a SOCKS5 listener; without a username nobody has to authenticate. -/
structure SOCKS5Config where
  username : GoString
  password : GoString

inductive SOCKS5Error where
  /-- "read auth header". -/
  | readAuthHeader
  /-- "unsupported version: %d". -/
  | unsupportedVersion (version : UInt8)
  /-- "read auth methods". -/
  | readAuthMethods
  /-- "write auth method". -/
  | writeAuthMethod
  /-- "socks5 auth read version". -/
  | readAuthVersion
  /-- "socks5 auth read username". -/
  | readUsername
  /-- "socks5 auth read password length". -/
  | readPasswordLength
  /-- "socks5 auth read password". -/
  | readPassword
  /-- "socks5 auth write success". -/
  | writeAuthSuccess
  /-- "socks5 auth failed". -/
  | authFailed
  /-- "read request". -/
  | readRequest
  /-- "unsupported command: %d". -/
  | unsupportedCommand (command : UInt8)
  | readAddress
  /-- "unsupported address type: %d". -/
  | unsupportedAddressType (atyp : UInt8)
  /-- "udp associate read addr", around another error. -/
  | udpAssociateReadAddr (inner : SOCKS5Error)
  /-- The sentinel of a UDP association, which is no failure. -/
  | udpAssociate
deriving DecidableEq

structure TCPAddr where
  ip : IP
  port : UInt16

abbrev SOCKS5Session := Session SOCKS5Error

open Session

variable (config : SOCKS5Config)

def handlePasswordAuth : SOCKS5Session Unit := do
  let header ← receive 2 .readAuthVersion
  let username ← receive (header.getD 1 0).toNat .readUsername
  let length ← receive 1 .readPasswordLength
  let password ← receive (length.getD 0 0).toNat .readPassword
  if username = config.username ∧ password = config.password then
    send [0x01, 0x00] .writeAuthSuccess
  else do
    post [0x01, 0x01]
    throw .authFailed

/-- Negotiate the method; the client's list is read and not consulted. -/
def handleAuth : SOCKS5Session Unit := do
  let header ← receive 2 .readAuthHeader
  if header.getD 0 0 ≠ socks5Version then throw (.unsupportedVersion (header.getD 0 0))
  else do
    let _ ← receive (header.getD 1 0).toNat .readAuthMethods
    if config.username ≠ [] then do
      send [socks5Version, authPassword] .writeAuthMethod
      handlePasswordAuth config
    else send [socks5Version, authNone] .writeAuthMethod

/-- A reply with a bound address, of which only an IPv4 one is told. -/
def replyBytes (rep : UInt8) (bound : Option TCPAddr) : List UInt8 :=
  let unspecified := [socks5Version, rep, 0x00, atypIPv4, 0, 0, 0, 0, 0, 0]
  match bound with
  | none => unspecified
  | some address =>
    match to4 address.ip with
    | none => unspecified
    | some four => [socks5Version, rep, 0x00, atypIPv4] ++ four ++ beBytes 2 address.port.toNat

/-- Send a reply; every caller ignores a failure. -/
def sendReply (rep : UInt8) (bound : Option TCPAddr) : SOCKS5Session Unit :=
  post (replyBytes rep bound)

def readHost (atyp : UInt8) : SOCKS5Session GoString :=
  if atyp = atypIPv4 then do
    let addr ← receive 4 .readAddress
    pure (ipString addr)
  else if atyp = atypDomain then do
    let length ← receive 1 .readAddress
    receive (length.getD 0 0).toNat .readAddress
  else if atyp = atypIPv6 then do
    let addr ← receive 16 .readAddress
    pure (ipString addr)
  else throw (.unsupportedAddressType atyp)

/-- Read an address and its port as `host:port`, the host as it is. -/
def readAddress (atyp : UInt8) : SOCKS5Session GoString := do
  let host ← readHost atyp
  let port ← receive 2 .readAddress
  pure (host ++ colon :: formatDecimal (ofBe port))

def handleRequest : SOCKS5Session GoString := do
  let header ← receive 4 .readRequest
  if header.getD 0 0 ≠ socks5Version then throw (.unsupportedVersion (header.getD 0 0))
  else if header.getD 1 0 = cmdUDPAssociate then do
    let _ ← wrapError (readAddress (header.getD 3 0)) .udpAssociateReadAddr
    throw .udpAssociate
  else if header.getD 1 0 ≠ cmdConnect then do
    sendReply repCmdNotSupported none
    throw (.unsupportedCommand (header.getD 1 0))
  else onError (readAddress (header.getD 3 0)) (sendReply repAddrNotSupported none)

inductive Served where
  | closed
  | dialed (target : GoString)
  | associated
deriving DecidableEq

variable (dialer : GoString → Option (Option TCPAddr))

def serveRequest :
    EStateM.Result SOCKS5Error Conn GoString → Served × Conn
  | .ok target conn =>
    let reply := match dialer target with
      | none => replyBytes repHostUnreach none
      | some bound => replyBytes repSuccess bound
    (.dialed target, { conn with deadline := false, output := conn.output ++ [reply] })
  | .error failure conn => (if failure = .udpAssociate then .associated else .closed, conn)

def SOCKS5Config.handleConn (conn : Conn) : Served × Conn :=
  match (handleAuth config).run { conn with deadline := true } with
  | .error _ conn => (.closed, conn)
  | .ok _ conn => serveRequest dialer (handleRequest.run conn)

/-! ## Authentication -/

/-- A stream that negotiates and then presents the configured username and password. -/
def SOCKS5Config.PresentedIn (stream : List UInt8) : Prop :=
  ∃ (methods rest : List UInt8) (count version usernameLength passwordLength : UInt8),
    stream = socks5Version :: count :: (methods ++ version :: usernameLength ::
      (config.username ++ passwordLength :: (config.password ++ rest))) ∧
    methods.length = count.toNat ∧ config.username.length = usernameLength.toNat ∧
    config.password.length = passwordLength.toNat

variable {conn last : Conn} {config : SOCKS5Config}

theorem receive_two {failure : SOCKS5Error} {front : List UInt8}
    (read : (receive 2 failure).run conn = .ok front last) :
    conn.input = front.getD 0 0 :: front.getD 1 0 :: last.input := by
  have ⟨length, split⟩ := receive_ok read
  match front, length with
  | [_, _], _ => exact split

theorem receive_one {failure : SOCKS5Error} {front : List UInt8}
    (read : (receive 1 failure).run conn = .ok front last) :
    conn.input = front.getD 0 0 :: last.input := by
  have ⟨length, split⟩ := receive_ok read
  match front, length with
  | [_], _ => exact split

theorem handlePasswordAuth_ok {done : Unit}
    (passed : (handlePasswordAuth config).run conn = .ok done last) :
    ∃ version usernameLength passwordLength : UInt8,
      conn.input = version :: usernameLength ::
        (config.username ++ passwordLength :: (config.password ++ last.input)) ∧
      config.username.length = usernameLength.toNat ∧
      config.password.length = passwordLength.toNat := by
  rw [handlePasswordAuth, bind_ok] at passed
  have ⟨header, afterHeader, readHeader, passed⟩ := passed
  rw [bind_ok] at passed
  have ⟨username, afterUsername, readUsername, passed⟩ := passed
  rw [bind_ok] at passed
  have ⟨length, afterLength, readLength, passed⟩ := passed
  rw [bind_ok] at passed
  have ⟨password, afterPassword, readPassword, passed⟩ := passed
  have ⟨usernameLength, usernameSplit⟩ := receive_ok readUsername
  have ⟨passwordLength, passwordSplit⟩ := receive_ok readPassword
  split at passed
  · rename_i same
    have unread := send_ok passed
    refine ⟨header.getD 0 0, header.getD 1 0, length.getD 0 0, ?_, ?_, ?_⟩
    · rw [receive_two readHeader, usernameSplit, receive_one readLength, passwordSplit, same.1,
        same.2, unread]
    · rw [← same.1, usernameLength]
    · rw [← same.2, passwordLength]
  · rw [bind_ok] at passed
    have ⟨_, _, _, failed⟩ := passed
    exact absurd failed throw_ne_ok

theorem handleAuth_ok {done : Unit}
    (locked : config.username ≠ []) (passed : (handleAuth config).run conn = .ok done last) :
    config.PresentedIn conn.input := by
  rw [handleAuth, bind_ok] at passed
  have ⟨header, afterHeader, readHeader, passed⟩ := passed
  split at passed
  · exact absurd passed throw_ne_ok
  rename_i version
  rw [bind_ok] at passed
  have ⟨methods, afterMethods, readMethods, passed⟩ := passed
  rw [bind_ok] at passed
  have ⟨_, afterChoice, wroteChoice, passed⟩ := passed
  have ⟨methodsLength, methodsSplit⟩ := receive_ok readMethods
  have ⟨authVersion, usernameLength, passwordLength, credentials, lengths⟩ :=
    handlePasswordAuth_ok passed
  refine ⟨methods, last.input, header.getD 1 0, authVersion, usernameLength, passwordLength,
    ?_, methodsLength, lengths⟩
  rw [receive_two readHeader, not_not.mp version, methodsSplit, ← send_ok wroteChoice, credentials]

theorem SOCKS5Config.handleConn_presented
    {dialer : GoString → Option (Option TCPAddr)} (locked : config.username ≠ [])
    (served : (config.handleConn dialer conn).1 ≠ .closed) : config.PresentedIn conn.input := by
  rw [handleConn] at served
  cases passed : (handleAuth config).run { conn with deadline := true } with
  | error failure last =>
    rw [passed] at served
    exact absurd rfl served
  | ok done last =>
    have presented := handleAuth_ok locked passed
    exact presented

/-! ## Requests -/

inductive Address where
  | ipv4 (bytes : { bytes : IP // bytes.length = 4 })
  | domain (name : { name : GoString // name.length < 256 })
  | ipv6 (bytes : { bytes : IP // bytes.length = 16 })

namespace Address

def atyp : Address → UInt8
  | ipv4 _ => atypIPv4
  | domain _ => atypDomain
  | ipv6 _ => atypIPv6

def encode : Address → List UInt8
  | ipv4 bytes => bytes.val
  | domain name => UInt8.ofNat name.val.length :: name.val
  | ipv6 bytes => bytes.val

def host : Address → GoString
  | ipv4 bytes => ipString bytes.val
  | domain name => name.val
  | ipv6 bytes => ipString bytes.val

def connectRequest (address : Address) (reserved : UInt8) (port : UInt16) : List UInt8 :=
  [socks5Version, cmdConnect, reserved, address.atyp] ++ (address.encode ++ beBytes 2 port.toNat)

end Address

variable {conn : Conn} {rest : List UInt8}

variable (address : Address)

theorem readHost_encode (starts : conn.input = address.encode ++ rest) :
    (readHost address.atyp).run conn = .ok address.host { conn with input := rest } := by
  cases address with
  | ipv4 bytes =>
    have four : (Address.ipv4 bytes).atyp = atypIPv4 := rfl
    rw [readHost, if_pos four, bind_of_ok (receive_append _ bytes.property starts)]
    rfl
  | domain name =>
    have length : (UInt8.ofNat name.val.length).toNat = name.val.length :=
      UInt8.toNat_ofNat_of_lt name.property
    have named : (Address.domain name).atyp = atypDomain := rfl
    have other : (Address.domain name).atyp ≠ atypIPv4 := by
      rw [named]
      decide
    have first : (receive 1 SOCKS5Error.readAddress).run conn =
        .ok [UInt8.ofNat name.val.length] { conn with input := name.val ++ rest } :=
      receive_append _ rfl starts
    rw [readHost, if_neg other, if_pos named, bind_of_ok first]
    exact receive_append _ length.symm rfl
  | ipv6 bytes =>
    have sixteen : (Address.ipv6 bytes).atyp = atypIPv6 := rfl
    have other : (Address.ipv6 bytes).atyp ≠ atypIPv4 ∧ (Address.ipv6 bytes).atyp ≠ atypDomain := by
      rw [sixteen]
      decide
    rw [readHost, if_neg other.1, if_neg other.2, if_pos sixteen,
      bind_of_ok (receive_append _ bytes.property starts)]
    rfl

theorem readAddress_encode (port : UInt16)
    (starts : conn.input = address.encode ++ (beBytes 2 port.toNat ++ rest)) :
    (readAddress address.atyp).run conn =
      .ok (address.host ++ colon :: formatDecimal port.toNat) { conn with input := rest } := by
  have fits : port.toNat < 256 ^ 2 := port.toNat_lt
  rw [readAddress, bind_of_ok (readHost_encode address starts),
    bind_of_ok (receive_append _ (beBytes_length 2 _) rfl), ofBe_beBytes_of_lt fits]
  rfl

theorem handleRequest_connect (reserved : UInt8) (port : UInt16)
    (starts : conn.input = address.connectRequest reserved port ++ rest) :
    handleRequest.run conn =
      .ok (address.host ++ colon :: formatDecimal port.toNat) { conn with input := rest } := by
  have header : (receive 4 SOCKS5Error.readRequest).run conn =
      .ok [socks5Version, cmdConnect, reserved, address.atyp]
        { conn with input := address.encode ++ (beBytes 2 port.toNat ++ rest) } := by
    rw [Address.connectRequest, List.append_assoc, List.append_assoc] at starts
    exact receive_append _ rfl starts
  have version : ¬[socks5Version, cmdConnect, reserved, address.atyp].getD 0 0 ≠ socks5Version :=
    not_not.mpr rfl
  have other : [socks5Version, cmdConnect, reserved, address.atyp].getD 1 0 ≠ cmdUDPAssociate :=
    fun same => absurd same (by decide : cmdConnect ≠ cmdUDPAssociate)
  have connect : ¬[socks5Version, cmdConnect, reserved, address.atyp].getD 1 0 ≠ cmdConnect :=
    not_not.mpr rfl
  rw [handleRequest, bind_of_ok header, if_neg version, if_neg other, if_neg connect]
  apply onError_of_ok
  apply readAddress_encode
  rfl

end Shuttle.Proxy
