import ProxyDial.Dns.Lookup

set_option autoImplicit false

/-! Dialing without a proxy: a plain connection to the first address that the name of the
destination has. -/

namespace ProxyDial

/-- Dials everything straight. Names are looked up by the given resolver, else by the one for all.
-/
structure DirectDialer where
  resolver : Option Resolver
  options : DialOptions

namespace DirectDialer

def dial (dialer : DirectDialer) (address : String) : Dial Connection := do
  let destination ← Dial.ofExcept (Destination.parse address)
  let resolver ← match dialer.resolver with
    | some resolver => pure resolver
    | none => Resolver.current
  let addresses ← resolver.lookup destination.host destination.port
  let socket ← connectAny addresses dialer.options
  return ⟨.plain (.direct socket), destination.authority⟩

end DirectDialer

end ProxyDial
