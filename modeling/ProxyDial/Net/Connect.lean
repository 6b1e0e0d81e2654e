import ProxyDial.Net.World
import ProxyDial.Text.Blank
import ProxyDial.Text.Cut

set_option autoImplicit false

/-! Connecting: to the first of several addresses that takes it, and to a host and port given as a
text. The host of such a text is looked up by the system, whatever resolver is installed. -/

namespace ProxyDial
open Text

/-- Tries the addresses in their order, each within what is left of the budget. -/
def connectFirst (options : DialOptions) : Option Fault → List SocketAddress → Dial Socket
  | none, [] => .fail (.config .noAddresses)
  | some last, [] => .fail (.ofFault last)
  | _, address :: rest => do
      let limit ← Dial.budget options
      match ← Socket.connect address limit with
      | .ok socket =>
          if options.nodelay then socket.setNodelay
          return socket
      | .error fault => connectFirst options (some fault) rest

/-- A connection to the first address that takes one. -/
def connectAny (addresses : List SocketAddress) (options : DialOptions) : Dial Socket := do
  connectFirst (← Dial.started options) none addresses

/-- The addresses that the system has for a host. -/
def systemAddresses (host : List Char) : Dial (Except String (List IpAddress)) := do
  if '\x00' ∈ host then return .error "file name contained an unexpected NUL byte"
  match IpAddress.ofChars? host with
  | some ip => return .ok [ip]
  | none =>
      Dial.awaitLookup (String.ofList host)
      return (← get).names (String.ofList host)

/-- The socket addresses for a host and port given as a text. -/
def addressesOf (address : String) : Dial (Except String (List SocketAddress)) := do
  let text := address.toList
  match SocketAddress.ofChars? text, cutAtLast? ':' text with
  | some address, _ => return .ok [address]
  | none, none => return .error "invalid socket address"
  | none, some (host, digits) =>
      match readUInt16? digits with
      | none => return .error "invalid port value"
      | some port => return (← systemAddresses host).map (·.map (SocketAddress.ofIp · port))

/-- A connection to a host and port given as a text. -/
def connectTo (address : String) (options : DialOptions) : Dial Socket := do
  let options ← Dial.started options
  match ← addressesOf address with
  | .error problem => .fail (.resolve (.unresolved address problem))
  | .ok [] => .fail (.resolve (.nothingFound address))
  | .ok addresses => connectAny addresses options

end ProxyDial
