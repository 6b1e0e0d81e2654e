import ProxyDial.Address.Ip
import ProxyDial.Dial.Options
import ProxyDial.Json.Record
import ProxyDial.Proxy.Environment
import ProxyDial.Proxy.Target

set_option autoImplicit false

/-! What an operator configures, how it is read from a JSON text, and which of it is refused. -/

namespace ProxyDial
open Text

/-- The texts that TLS is set up from. -/
structure TlsSettings where
  authority : String
  certificate : Option String
  key : Option String
  skipHostVerification : Bool
  deriving DecidableEq, Repr

namespace TlsSettings

def empty : TlsSettings := ⟨"", none, none, false⟩

/-- The settings in diagnostics. Of the key only its presence is shown. -/
def shown (settings : TlsSettings) : String :=
  record "TlsSettings"
    [("ca_cert", toString settings.authority.utf8ByteSize ++ " bytes"),
      ("client_cert", toString settings.certificate.isSome),
      ("client_key", optional (settings.key.map fun _ => redacted)),
      ("skip_host_verification", toString settings.skipHostVerification)]

def recordType : Json.RecordType TlsSettings where
  name := "TlsSettings"
  fields :=
    [.of "ca_cert" Json.readText fun text settings => { settings with authority := text },
      .of "client_cert" (Json.readOptional Json.readText) fun text settings =>
        { settings with certificate := text },
      .of "client_key" (Json.readOptional Json.readText) fun text settings =>
        { settings with key := text },
      .of "skip_host_verification" Json.readFlag fun skip settings =>
        { settings with skipHostVerification := skip }]
  empty := empty
  allRequired := false

end TlsSettings

/-- Credentials as settings hold them: both parts are required. -/
def Credentials.recordType : Json.RecordType Credentials where
  name := "UserPassSettings"
  fields :=
    [.of "username" Json.readText fun text login => { login with username := text },
      .of "password" Json.readText fun text login => { login with password := text }]
  empty := ⟨"", ""⟩
  allRequired := true

structure Settings where
  /-- The contact points, separated by commas. -/
  host : Option String
  /-- The keyspace with the roles, where it is not the usual one. -/
  authKeyspace : Option String
  login : Option Credentials
  /-- The proxy; without it the environment may name one. -/
  proxy : Option String
  /-- The IP address of the nameserver that is asked through the proxy. -/
  nameserver : Option String
  tls : Option TlsSettings
  /-- Seconds that a dial may take. -/
  timeoutSeconds : Option Nat
  deriving DecidableEq, Repr

namespace Settings

def empty : Settings := ⟨none, none, none, none, none, none, none⟩

def recordType : Json.RecordType Settings where
  name := "Settings"
  fields :=
    [.of "host" (Json.readOptional Json.readText) fun text settings =>
        { settings with host := text },
      .of "system_auth_keyspace" (Json.readOptional Json.readText) fun text settings =>
        { settings with authKeyspace := text },
      .of "auth_login_userpass" (Json.readOptional Credentials.recordType.read)
        fun login settings => { settings with login := login },
      .of "proxy_url" (Json.readOptional Json.readText) fun text settings =>
        { settings with proxy := text },
      .of "dns_nameserver" (Json.readOptional Json.readText) fun text settings =>
        { settings with nameserver := text },
      .of "tls" (Json.readOptional TlsSettings.recordType.read) fun tls settings =>
        { settings with tls := tls },
      .of "connect_timeout_secs" (Json.readOptional Json.readNatural) fun seconds settings =>
        { settings with timeoutSeconds := seconds }]
  empty := empty
  allRequired := false

/-- The settings that a JSON text holds. -/
def ofJson (text : String) : Except Error Settings :=
  match recordType.ofText text with
  | .ok settings => .ok settings
  | .error problem => .error (.config (.invalidSettings problem))

/-- The variable that names the contact points where the settings do not. -/
def hostVariable : String := "SCYLLADB_HOST"

def withEnvironment (settings : Settings) (environment : Environment) : Settings :=
  { settings with host := settings.host.or (environment hostVariable) }

/-- The contact points in their order, without blank ones. -/
def hosts (settings : Settings) : List String :=
  (((settings.host.getD "").toList.splitOn ',').map fun host => String.ofList (trimmed host)).filter
    (· ≠ "")

def dialOptions (settings : Settings) : DialOptions :=
  match settings.timeoutSeconds with
  | some seconds => DialOptions.default.withTimeout (.ofSeconds seconds)
  | none => .default

/-- The nameserver, where one is set that is not blank. -/
def nameserver? (settings : Settings) : Option String := nonBlank? settings.nameserver

def validate (settings : Settings) : Except Error Unit :=
  if settings.hosts.isEmpty then .error (.config (.missingHost hostVariable))
  else if settings.timeoutSeconds = some 0 then .error (.config .zeroTimeout)
  else match settings.nameserver?.filter fun text => (IpAddress.ofString? text).isNone with
    | some text => .error (.config (.settingNotAddress text))
    | none =>
        if settings.login.any fun login => login.username = "" then
          .error (.config .missingUsername)
        else .ok ()

/-- The settings in diagnostics. -/
def shown (settings : Settings) : String :=
  let texts (text : Option String) : String := optional (text.map quoted)
  record "Settings"
    [("host", texts settings.host), ("system_auth_keyspace", texts settings.authKeyspace),
      ("auth_login_userpass",
        optional (settings.login.map (Credentials.shownAs "UserPassSettings"))),
      ("proxy_url", texts settings.proxy), ("dns_nameserver", texts settings.nameserver),
      ("tls", optional (settings.tls.map TlsSettings.shown)),
      ("connect_timeout_secs", optional (settings.timeoutSeconds.map toString))]

end Settings

end ProxyDial
