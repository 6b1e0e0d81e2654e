import ProxyDial.Address.Socket
import ProxyDial.Text.Base64
import ProxyDial.Text.Bytes
import ProxyDial.Text.Record

set_option autoImplicit false

/-! The proxy that dials go through: which protocol it speaks, where it is, and who asks. -/

namespace ProxyDial
open Text

/-- The protocol in which a proxy is asked for a tunnel. -/
inductive ProxyScheme
  | http
  | socks5
  deriving DecidableEq, Repr

namespace ProxyScheme

def text : ProxyScheme → String
  | http => "http"
  | socks5 => "socks5"

def name : ProxyScheme → String
  | http => "Http"
  | socks5 => "Socks5"

/-- The port of a proxy whose address tells none. -/
def defaultPort : ProxyScheme → UInt16
  | http => 80
  | socks5 => 1080

end ProxyScheme

/-- A user name and the password that goes with it. -/
structure Credentials where
  username : String
  password : String
  deriving DecidableEq, Repr

namespace Credentials

/-- The credentials in diagnostics, under the name of what they are for. The password is not shown.
-/
def shownAs (name : String) (credentials : Credentials) : String :=
  record name [("username", quoted credentials.username), ("password", redacted)]

/-- The token of HTTP basic authentication. -/
def basic (credentials : Credentials) : String :=
  "Basic " ++
    String.ofList (Base64.encode (utf8 (credentials.username ++ ":" ++ credentials.password)))

end Credentials

structure Proxy where
  scheme : ProxyScheme
  host : String
  port : UInt16
  credentials : Option Credentials
  deriving DecidableEq, Repr

namespace Proxy

/-- The form `host:port`, as a connection attempt takes it. -/
def address (proxy : Proxy) : String := joinHostPort proxy.host proxy.port

instance : ToString Proxy := ⟨fun proxy => proxy.scheme.text ++ "://" ++ proxy.address⟩

/-- What an HTTP proxy is told about who asks. -/
def authorization (proxy : Proxy) : Option String := proxy.credentials.map Credentials.basic

def shown (proxy : Proxy) : String :=
  record "ProxyTarget"
    [("scheme", proxy.scheme.name), ("host", quoted proxy.host),
      ("port", toString proxy.port.toNat),
      ("auth", optional (proxy.credentials.map (Credentials.shownAs "ProxyAuth")))]

end Proxy

end ProxyDial
