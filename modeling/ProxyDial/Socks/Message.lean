import ProxyDial.Destination
import ProxyDial.Proxy.Target

set_option autoImplicit false

/-! The messages of SOCKS version 5 (RFC 1928) and of its sub-negotiation with user name and
password (RFC 1929), as far as a client needs them. -/

namespace ProxyDial.Socks
open Text

def version : UInt8 := 5

def noAuthentication : UInt8 := 0

def byPassword : UInt8 := 2

def noneAcceptable : UInt8 := 255

/-- The offer of methods: none, or also a password where there are credentials. -/
def greeting (credentials : Option Credentials) : Bytes :=
  if credentials.isSome then [version, 2, noAuthentication, byPassword]
  else [version, 1, noAuthentication]

/-- A text behind its length, which takes one byte. -/
def prefixed? (text : String) : Option Bytes :=
  let bytes := utf8 text
  if bytes.length < 256 then some (UInt8.ofNat bytes.length :: bytes) else none

/-- The packet with user name and password. -/
def passwordPacket (credentials : Credentials) : Except Error Bytes :=
  match prefixed? credentials.username, prefixed? credentials.password with
  | none, _ => .error (.config .socksUsernameTooLong)
  | _, none => .error (.config .socksPasswordTooLong)
  | some username, some password => .ok (1 :: username ++ password)

/-- The type of an address and the address itself. -/
def hostField (host : String) : Except Error Bytes :=
  match IpAddress.ofString? host with
  | some (.v4 ip) => .ok (1 :: ip.octets)
  | some (.v6 ip) => .ok (4 :: ip.octets)
  | none =>
      match prefixed? host with
      | some name => .ok (3 :: name)
      | none => .error (.config (.socksHostTooLong host))

def portField (port : UInt16) : Bytes := [(port >>> 8).toUInt8, port.toUInt8]

/-- The request to connect to a destination. -/
def request (destination : Destination) : Except Error Bytes := do
  return [version, 1, 0] ++ (← hostField destination.host) ++ portField destination.port

/-- The reason for a reply that refuses a request. -/
def refusal (code : UInt8) : String :=
  match code.toNat with
  | 1 => "general SOCKS server failure"
  | 2 => "connection not allowed by ruleset"
  | 3 => "network unreachable"
  | 4 => "host unreachable"
  | 5 => "connection refused"
  | 6 => "TTL expired"
  | 7 => "command not supported"
  | 8 => "address type not supported"
  | _ => "unassigned reply code"

end ProxyDial.Socks
