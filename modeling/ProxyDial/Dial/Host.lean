import ProxyDial.Dial.Proxied
import ProxyDial.Tls.Handshake

set_option autoImplicit false

/-! Dialing with the whole list of candidates through a SOCKS proxy. Such a dialer protects the
connection that it hands out itself. -/

namespace ProxyDial
open Text

structure HostDialer where
  dialer : ProxyDialer
  /-- What each connection is protected with. -/
  tls : Option TlsConfig
  isSocks : dialer.proxy.scheme = .socks5

namespace HostDialer

/-- The dialer through a proxy, which must speak SOCKS. -/
def ofProxy (proxy : Proxy) : Except Error HostDialer :=
  if isSocks : proxy.scheme = .socks5 then .ok ⟨.ofProxy proxy, none, isSocks⟩
  else .error (.config (.notSocks (toString proxy)))

def withOptions (dialer : HostDialer) (options : DialOptions) : HostDialer :=
  { dialer with dialer := dialer.dialer.withOptions options, isSocks := dialer.isSocks }

def withTls (dialer : HostDialer) (tls : TlsConfig) : HostDialer := { dialer with tls := some tls }

/-- A connection to the first candidate that is reached. It is protected where that is asked for. -/
def dial (dialer : HostDialer) (candidates : Candidates) : Dial Connection := do
  let connection ← dialer.dialer.dial candidates
  match dialer.tls with
  | some tls => connection.protect tls dialer.dialer.options
  | none => return connection

def shown (dialer : HostDialer) : String :=
  record "SocksHostDialer"
    [("proxy", dialer.dialer.shown), ("tls", optional (dialer.tls.map TlsConfig.shown))]

end HostDialer

end ProxyDial
