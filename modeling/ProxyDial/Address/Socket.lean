import ProxyDial.Address.Ip
import ProxyDial.Text.Cut

set_option autoImplicit false

/-! A host with a port, as text and as the address of a socket. -/

namespace ProxyDial

/-- The form `host:port`, with brackets around a host that holds a colon and has none yet. -/
def joinHostPort (host : String) (port : UInt16) : String :=
  if host.toList.contains ':' && host.toList.head? ≠ some '[' then
    "[" ++ host ++ "]:" ++ toString port.toNat
  else host ++ ":" ++ toString port.toNat

/-- The address of a socket. An IPv6 address may name the link it is valid on. -/
structure SocketAddress where
  ip : IpAddress
  port : UInt16
  link : UInt32
  deriving DecidableEq, Repr

namespace SocketAddress
open Text

def ofIp (ip : IpAddress) (port : UInt16) : SocketAddress := ⟨ip, port, 0⟩

instance : ToString SocketAddress where
  toString address :=
    let port := ":" ++ toString address.port.toNat
    match address.ip with
    | .v4 ip => toString ip ++ port
    | .v6 ip =>
        let link := if address.link = 0 then "" else "%" ++ toString address.link.toNat
        "[" ++ toString ip ++ link ++ "]" ++ port

def readPort? (digits : List Char) : Option UInt16 :=
  (readDigits? 65536 digits).map UInt16.ofNat

/-- The address between the brackets, and the number of its link. -/
def readScoped? (text : List Char) : Option (Ipv6 × UInt32) :=
  match cutAt? '%' text with
  | none => (Ipv6.ofChars? text).map (·, 0)
  | some (ip, link) => do
      return (← Ipv6.ofChars? ip, UInt32.ofNat (← readDigits? 4294967296 link))

/-- The socket address that the whole text writes: an IPv4 address or a bracketed IPv6 address, a
colon and the digits of a port. -/
def ofChars? (text : List Char) : Option SocketAddress :=
  match text with
  | '[' :: rest =>
      match readScoped? (rest.takeWhile (· ≠ ']')), rest.dropWhile (· ≠ ']') with
      | some (ip, link), ']' :: ':' :: digits => (readPort? digits).map (⟨.v6 ip, ·, link⟩)
      | _, _ => none
  | _ =>
      match Ipv4.read? text with
      | some (ip, ':' :: digits) => (readPort? digits).map (⟨.v4 ip, ·, 0⟩)
      | _ => none

end SocketAddress

end ProxyDial
