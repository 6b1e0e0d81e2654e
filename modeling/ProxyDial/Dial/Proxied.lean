import ProxyDial.Dial.Candidates
import ProxyDial.Http.Tunnel
import ProxyDial.Socks.Tunnel

set_option autoImplicit false

/-! Dialing through a proxy, in the protocol that it speaks. -/

namespace ProxyDial.ProxyDialer

/-- A tunnel to one address. -/
def dialAddress (dialer : ProxyDialer) (address : String) : Dial Connection := do
  let destination ← Dial.ofExcept (Destination.parse address)
  match dialer.proxy.scheme with
  | .http => Http.dial dialer.proxy destination dialer.options
  | .socks5 => Socks.dial dialer.proxy destination dialer.options

/-- A tunnel to the first candidate that the proxy reaches. -/
def dial (dialer : ProxyDialer) (candidates : Candidates) : Dial Connection :=
  firstReachable candidates dialer.dialAddress

end ProxyDial.ProxyDialer
