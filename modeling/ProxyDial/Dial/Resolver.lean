import ProxyDial.Address.Socket
import ProxyDial.Dial.Options
import ProxyDial.Proxy.Target
import ProxyDial.Text.Blank

set_option autoImplicit false

/-! Dialers through a proxy, and what turns host names into addresses. One way to look a name up is
to ask a nameserver through a proxy. -/

namespace ProxyDial
open Text

/-- Dials everything through one proxy. -/
structure ProxyDialer where
  proxy : Proxy
  options : DialOptions
  deriving DecidableEq, Repr

namespace ProxyDialer

def ofProxy (proxy : Proxy) : ProxyDialer := ⟨proxy, .default⟩

def withOptions (dialer : ProxyDialer) (options : DialOptions) : ProxyDialer :=
  { dialer with options := options }

def shown (dialer : ProxyDialer) : String :=
  record "ProxyDialer" [("target", dialer.proxy.shown), ("options", dialer.options.shown)]

end ProxyDialer

/-- A nameserver that is asked through a proxy. -/
structure ProxiedResolver where
  nameserver : SocketAddress
  dialer : ProxyDialer
  deriving DecidableEq, Repr

namespace ProxiedResolver

/-- The port of nameservers. -/
def port : UInt16 := 53

/-- The resolver for a nameserver given by its IP address. -/
def ofText (dialer : ProxyDialer) (nameserver : String) : Except Error ProxiedResolver :=
  match IpAddress.ofChars? (trimmed nameserver.toList) with
  | some ip => .ok ⟨.ofIp ip port, dialer⟩
  | none =>
      .error (.config (.nameserverNotAddress nameserver "invalid IP address syntax"))

def shown (resolver : ProxiedResolver) : String :=
  record "ProxyDnsResolver"
    [("nameserver", toString resolver.nameserver), ("dialer", resolver.dialer.shown)]

end ProxiedResolver

/-- What turns host names into addresses. -/
inductive Resolver
  /-- The resolver of the system. -/
  | system
  | proxied (resolver : ProxiedResolver)
  /-- Any other one: its name, and what it answers for a host and a port. -/
  | custom (name : String) (answer : String → UInt16 → Except Error (List SocketAddress))

namespace Resolver

def name : Resolver → String
  | system => "GaiResolver"
  | proxied _ => "ProxyDnsResolver"
  | custom name _ => name

def shown : Resolver → String
  | system => "GaiResolver"
  | proxied resolver => resolver.shown
  | custom name _ => name

end Resolver

end ProxyDial
