import ProxyDial.Dial.Proxied
import ProxyDial.Dns.Message

set_option autoImplicit false

/-! Looking up the addresses of a host. The way through a proxy opens one tunnel to the nameserver
and asks for addresses of both families over it, each message behind its length. -/

namespace ProxyDial
open Text Dns

namespace ProxiedResolver

/-- Reads exactly so many bytes within the budget. -/
def receive (options : DialOptions) : (count : Nat) → Connection → Dial (Bytes × Connection)
  | 0, connection => return ([], connection)
  | count + 1, connection => do
      connection.setLimit (some (← Dial.budget options))
      let (result, connection) ← connection.read (count + 1)
      match ← Dial.orFail .ofHandshakeFault result with
      | [] => .fail (.ofHandshakeFault .unexpectedEnd)
      | byte :: bytes =>
          let (rest, connection) ← receive options (count - bytes.length) connection
          return (byte :: bytes ++ rest, connection)

/-- The query for the addresses of one family. -/
def encodeQuery (id : UInt16) (host : String) (type : RecordType) : Except Error Bytes :=
  match Name.ofHost host with
  | .ok name => .ok (Dns.encodeQuery id ⟨name, type⟩)
  | .error problem => .error (.config (.invalidHostName host problem.message))

/-- The addresses that an answer to the query with this number gives. -/
def decodeAnswers (codec : Bytes → Except String Message) (id : UInt16) (host : String)
    (bytes : Bytes) : Except Error (List IpAddress) :=
  match codec bytes with
  | .error problem => .error (.protocol (.malformedResponse ("DNS response: " ++ problem)))
  | .ok message =>
      if message.id ≠ id then
        .error (.protocol (.malformedResponse
          ("DNS response id " ++ toString message.id.toNat ++ " does not match query id " ++
            toString id.toNat)))
      else if message.code = .noError then .ok message.addresses
      else if message.code = .noSuchName then .error (.resolve (.noSuchHost host))
      else .error (.resolve (.lookupFailed host message.code.name))

/-- A message behind its length. -/
def frame (message : Bytes) : Bytes :=
  UInt8.ofNat (message.length / 256) :: UInt8.ofNat message.length :: message

/-- Asks for the addresses of one family. What the answer says is returned with the connection
behind it; a connection that gives no answer ends the lookup. -/
def exchange (host : String) (type : RecordType) (options : DialOptions)
    (connection : Connection) : Dial (Except Error (List IpAddress) × Connection) := do
  let id ← Dial.drawNumber
  let query ← Dial.ofExcept (encodeQuery id host type)
  if query.length ≥ 65536 then .fail (.config (.queryTooLarge host))
  connection.setLimit (some (← Dial.budget options))
  Dial.orFail .ofFault (← connection.write (frame query))
  let (length, connection) ← receive options 2 connection
  let count := (length.getD 0 0).toNat * 256 + (length.getD 1 0).toNat
  let (answer, connection) ← receive options count connection
  return (decodeAnswers (← get).codec id host answer, connection)

/-- The addresses of the families that are still to be asked for, after those found so far. A family
whose lookup fails does not take away what the other has; a name that does not exist ends the
lookup. -/
def queryFamilies (host : String) (options : DialOptions) :
    (found : List IpAddress) → (failed : Option Error) → List RecordType → Connection →
    Dial (List IpAddress)
  | found, failed, [], _ =>
      match failed, found with
      | some error, [] => .fail error
      | _, found => return found
  | found, failed, type :: types, connection => do
      let (answer, connection) ← exchange host type options connection
      match answer with
      | .ok addresses =>
          queryFamilies host options (found ++ addresses) failed types connection
      | .error error =>
          if error.kind = .resolve && !error.isNoSuchHost then
            queryFamilies host options found (failed.or (some error)) types connection
          else .fail error

/-- The addresses of a host, each with the port. A host that is an address is its own answer. -/
def lookup (resolver : ProxiedResolver) (host : String) (port : UInt16) :
    Dial (List SocketAddress) := do
  match IpAddress.ofString? host with
  | some ip => return [.ofIp ip port]
  | none =>
      let options ← Dial.started resolver.dialer.options
      let connection ←
        (resolver.dialer.withOptions options).dialAddress (toString resolver.nameserver)
      let result ← Dial.attempt (queryFamilies host options [] none [.a, .aaaa] connection)
      connection.close
      match ← Dial.ofExcept result with
      | [] => .fail (.resolve (.nothingFound host))
      | addresses => return addresses.map (SocketAddress.ofIp · port)

end ProxiedResolver

/-- The addresses that the system has for a host, each with the port. -/
def systemLookup (host : String) (port : UInt16) : Dial (List SocketAddress) := do
  match ← systemAddresses host.toList with
  | .error problem => .fail (.resolve (.unresolved host problem))
  | .ok [] => .fail (.resolve (.nothingFound host))
  | .ok addresses => return addresses.map (SocketAddress.ofIp · port)

namespace Resolver

/-- The addresses of a host, each with the port. -/
def lookup (resolver : Resolver) (host : String) (port : UInt16) : Dial (List SocketAddress) :=
  match resolver with
  | system => systemLookup host port
  | proxied resolver => resolver.lookup host port
  | custom _ answer => do
      modify fun world => { world with asked := world.asked ++ [(host, port)] }
      Dial.awaitLookup host
      Dial.ofExcept (answer host port)

/-- Makes a resolver the one for all. -/
def install (resolver : Resolver) : Dial Unit :=
  modify fun world => { world with installed := some resolver }

/-- Leaves lookups to the system again. -/
def uninstall : Dial Unit := modify fun world => { world with installed := none }

/-- The resolver for all. -/
def current : Dial Resolver := do return (← get).installed.getD system

end Resolver

end ProxyDial
