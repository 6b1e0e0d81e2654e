import ProxyDial.Destination

set_option autoImplicit false

/-! Contact points: the hosts that an operator lists, each as an address with a port. -/

namespace ProxyDial.ContactPoint
open Text

/-- The port of nodes whose entry tells none. -/
def defaultPort : UInt16 := 9042

/-- The address that an entry stands for. An IP address and a name get the default port; an entry
that is an address already keeps its own. -/
def ofEntry (entry : String) : String :=
  let text := trimmed entry.toList
  match IpAddress.ofChars? text, Destination.parse (String.ofList text) with
  | some ip, _ => Destination.authority ⟨toString ip, defaultPort⟩
  | none, .ok destination => destination.authority
  | none, .error _ => Destination.authority ⟨String.ofList (unbracketed text), defaultPort⟩

end ProxyDial.ContactPoint
