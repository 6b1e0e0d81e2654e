import ProxyDial.Net.Connect
import ProxyDial.Net.Stream
import ProxyDial.Socks.Message

set_option autoImplicit false

/-! Tunnels through SOCKS proxies. The handshake reads the replies of the proxy and not one byte
more, so that the connection starts with the first byte of the tunnel. -/

namespace ProxyDial.Socks
open Text

/-- Sends a packet within the budget. -/
def send (packet : Bytes) (options : DialOptions) (socket : Socket) : Dial Unit := do
  socket.setWriteLimit (some (← Dial.budget options))
  Dial.orFail .ofHandshakeFault (← socket.write packet)

/-- Reads exactly so many bytes within the budget. -/
def receive (options : DialOptions) (socket : Socket) : (count : Nat) → Dial Bytes
  | 0 => return []
  | count + 1 => do
      socket.setReadLimit (some (← Dial.budget options))
      match ← Dial.orFail .ofHandshakeFault (← socket.read (count + 1)) with
      | [] => .fail (.ofHandshakeFault .unexpectedEnd)
      | byte :: bytes => return byte :: bytes ++ (← receive options socket (count - bytes.length))

def checkVersion (found : UInt8) : Dial Unit :=
  if found = version then pure () else .fail (.protocol (.socksVersion found))

def authenticate (credentials : Credentials) (options : DialOptions) (socket : Socket) :
    Dial Unit := do
  send (← Dial.ofExcept (passwordPacket credentials)) options socket
  let status ← receive options socket 2
  if status.getD 1 0 ≠ 0 then
    .fail (.connect (.socksCredentialsRejected credentials.username))

/-- Agrees on a method, and authenticates where that is the one. -/
def negotiate (credentials : Option Credentials) (options : DialOptions) (socket : Socket) :
    Dial Unit := do
  send (greeting credentials) options socket
  let choice ← receive options socket 2
  checkVersion (choice.getD 0 0)
  let method := choice.getD 1 0
  if method = noAuthentication then pure ()
  else if method = byPassword then
    match credentials with
    | some credentials => authenticate credentials options socket
    | none => .fail (.protocol .socksMethodNotOffered)
  else if method = noneAcceptable then .fail (.connect .socksNoMethod)
  else .fail (.protocol (.socksUnknownMethod method))

/-- The length of the address and port that follow a reply with an address type. -/
def boundLength (type : UInt8) (options : DialOptions) (socket : Socket) : Dial Nat := do
  if type = 1 then return 6
  else if type = 4 then return 18
  else if type = 3 then
    let length ← receive options socket 1
    return (length.getD 0 0).toNat + 2
  else .fail (.protocol (.socksUnknownAddressType type))

/-- Reads the reply to a request, up to its end. -/
def readReply (destination : Destination) (options : DialOptions) (socket : Socket) :
    Dial Unit := do
  let reply ← receive options socket 4
  checkVersion (reply.getD 0 0)
  let code := reply.getD 1 0
  if code ≠ 0 then
    .fail (.connect (.socksRejected destination.authority code (refusal code)))
  else
    let length ← boundLength (reply.getD 3 0) options socket
    discard <| receive options socket length

/-- Asks the proxy for a tunnel to the destination. -/
def handshake (destination : Destination) (credentials : Option Credentials) (options : DialOptions)
    (socket : Socket) : Dial Unit := do
  let options ← Dial.started options
  negotiate credentials options socket
  send (← Dial.ofExcept (request destination)) options socket
  readReply destination options socket

/-- A connection to the destination through a SOCKS proxy. -/
def dial (proxy : Proxy) (destination : Destination) (options : DialOptions) : Dial Connection := do
  let options ← Dial.started options
  let socket ← connectTo proxy.address options
  match ← Dial.attempt (handshake destination proxy.credentials options socket) with
  | .error error =>
      socket.close
      .fail error
  | .ok () =>
      socket.setReadLimit none
      socket.setWriteLimit none
      return ⟨.plain (.direct socket), destination.authority⟩

end ProxyDial.Socks
