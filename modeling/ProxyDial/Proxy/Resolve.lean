import ProxyDial.Error
import ProxyDial.Proxy.Environment
import ProxyDial.Proxy.Target
import ProxyDial.Url

set_option autoImplicit false

/-! The proxy that a setting or the environment names. There are two shapes of dialer, and they
accept different schemes. A text that is no URL still names a host and perhaps a port. -/

namespace ProxyDial
open Text

/-- How a dialer is asked for a connection. -/
inductive DialerShape
  /-- One address at a time. TLS is not the dialer's. -/
  | address
  /-- With the whole list of candidates. TLS is the dialer's. -/
  | host
  deriving DecidableEq, Repr

namespace ProxyScheme

/-- What stands between a scheme and the rest of a setting. -/
def mark : List Char := [':', '/', '/']

/-- A written scheme with its ASCII letters in lower case. -/
def normalized (written : List Char) : String := String.ofList (written.map Char.toLower)

/-- Whether a written scheme asks for SOCKS. -/
def namesSocks (written : List Char) : Bool :=
  normalized written = "socks5" || normalized written = "socks5h"

end ProxyScheme

namespace DialerShape

def defaultScheme : DialerShape → ProxyScheme
  | address => .http
  | host => .socks5

/-- The shape that suits a proxy setting: the scheme of a SOCKS proxy asks for a host dialer. -/
def ofSetting (setting : String) : DialerShape :=
  match cutAtText? ProxyScheme.mark (trimmed setting.toList) with
  | some (scheme, _) => if ProxyScheme.namesSocks scheme then host else address
  | none => address

/-- The protocol that a written scheme stands for. -/
def schemeOf (shape : DialerShape) (written : List Char) : Except Error ProxyScheme :=
  let name := ProxyScheme.normalized written
  if name = "http" || name = "https" then
    match shape with
    | address => .ok .http
    | host => .error (.config (.schemeNotForHosts name))
  else if ProxyScheme.namesSocks written then .ok .socks5
  else .error (.config (.unsupportedScheme name))

end DialerShape

namespace Proxy

/-- The port that a URL means when it tells none, where its scheme has one. -/
def knownPort? (scheme : String) : Option UInt16 :=
  if scheme = "http" then some 80 else if scheme = "https" then some 443 else none

def urlKind (scheme : ProxyScheme) : UrlKind :=
  match scheme with
  | .http => .web
  | .socks5 => .generic

/-- The proxy at a URL. -/
def ofUrl (scheme : ProxyScheme) (port : UInt16) (url : Url) : Proxy :=
  { scheme := scheme
    host := String.ofList (unbracketed url.host.toChars)
    port := url.port.getD port
    credentials :=
      if url.username.isEmpty then none
      else some ⟨Percent.decodeText (String.ofList url.username),
        Percent.decodeText (String.ofList url.password)⟩ }

/-- The proxy that a text names which is no URL: all of the text is the host, but for the port
behind its last colon. -/
def verbatim (scheme : ProxyScheme) (text : List Char) : Proxy :=
  let whole : Proxy := ⟨scheme, String.ofList text, scheme.defaultPort, none⟩
  match cutAtLast? ':' text with
  | none => whole
  | some (host, digits) =>
      match readUInt16? digits with
      | some port =>
          if host.isEmpty then whole
          else ⟨scheme, String.ofList (unbracketed host), port, none⟩
      | none => whole

/-- The proxy that a trimmed text names. -/
def ofText (shape : DialerShape) (text : List Char) : Except Error Proxy := do
  let (scheme, port, rest) ←
    match cutAtText? ProxyScheme.mark text with
    | some (written, rest) => do
        let scheme ← shape.schemeOf written
        pure (scheme, (knownPort? (ProxyScheme.normalized written)).getD scheme.defaultPort, rest)
    | none => pure (shape.defaultScheme, shape.defaultScheme.defaultPort, text)
  match Url.ofChars? (urlKind scheme) rest with
  | some url => return ofUrl scheme port url
  | none => return verbatim scheme rest

/-- The text that names the proxy: the explicit one, or what the environment has. -/
def setting? (explicit : Option String) (environment : Environment) : Option String :=
  (nonBlank? explicit).or environment.proxy?

/-- The proxy for a dialer of the given shape; none where neither the explicit text nor the
environment names one. -/
def resolve (shape : DialerShape) (explicit : Option String) (environment : Environment) :
    Except Error (Option Proxy) :=
  match setting? explicit environment with
  | none => .ok none
  | some text => (ofText shape text.toList).map some

/-- The proxy, and the shape of the dialer that suits it. -/
def resolveWithShape (explicit : Option String) (environment : Environment) :
    Except Error (Option (Proxy × DialerShape)) := do
  match setting? explicit environment with
  | none => return none
  | some text =>
      let shape := DialerShape.ofSetting text
      let proxy ← resolve shape (some text) environment
      return proxy.map (·, shape)

end Proxy

end ProxyDial
