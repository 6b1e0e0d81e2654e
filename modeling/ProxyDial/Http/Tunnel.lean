import ProxyDial.Destination
import ProxyDial.Http.ResponseHead
import ProxyDial.Net.Connect
import ProxyDial.Net.Stream

set_option autoImplicit false

/-! Tunnels through HTTP proxies. The proxy is asked to connect to the destination; once it has
answered with status 200 the connection carries the bytes of the tunnel. What has arrived behind the
head of the answer already belongs to the tunnel and is held back for the first reads. -/

namespace ProxyDial.Http
open Text

/-- The largest head that an answer may have. -/
def maxHeadLength : Nat := 16384

/-- How much is read at once. -/
def chunkLength : Nat := 4096

/-- The request for a tunnel. -/
def requestHead (destination : Destination) (authorization : Option String) : String :=
  let authority := destination.authority
  let proof := match authorization with
    | some value => "Proxy-Authorization: " ++ value ++ "\r\n"
    | none => ""
  "CONNECT " ++ authority ++ " HTTP/1.1\r\nHost: " ++ authority ++ "\r\n" ++ proof ++ "\r\n"

/-- What the bytes of an answer mean so far: none as long as more are needed; else the bytes behind
the head. -/
def verdict (destination : Destination) (answer : Bytes) : Except Error (Option Bytes) :=
  match ResponseHead.ofBytes answer with
  | .ok head =>
      if head.code = 200 then .ok (some (answer.drop head.length))
      else .error (.protocol (.tunnelRejected destination.authority head.status))
  | .error .incomplete =>
      if maxHeadLength ≤ answer.length then
        .error (.protocol
          (.malformedResponse ("response head exceeds " ++ toString maxHeadLength ++ " bytes")))
      else .ok none
  | .error (.malformed problem) => .error (.protocol (.malformedResponse problem.message))

/-- Reads until the answer has a meaning. Every read makes the answer longer, and one of
`maxHeadLength` bytes has a meaning, so `room` of that size is enough. -/
def readAnswer (destination : Destination) (options : DialOptions) (socket : Socket) :
    (room : Nat) → (answer : Bytes) → Dial Bytes
  | 0, _ => .fail .timeout
  | room + 1, answer => do
      socket.setReadLimit (some (← Dial.budget options))
      let chunk ← Dial.orFail .ofHandshakeFault (← socket.read chunkLength)
      if chunk.isEmpty then
        .fail (.protocol
          (.malformedResponse "proxy closed the connection before completing its response"))
      else
        let answer := answer ++ chunk
        match ← Dial.ofExcept (verdict destination answer) with
        | some behind => return behind
        | none => readAnswer destination options socket room answer

/-- Asks for the tunnel and returns what arrives behind the answer. -/
def handshake (destination : Destination) (authorization : Option String)
    (options : DialOptions) (socket : Socket) : Dial Bytes := do
  socket.setWriteLimit (some (← Dial.budget options))
  Dial.orFail .ofHandshakeFault (← socket.write (utf8 (requestHead destination authorization)))
  readAnswer destination options socket (maxHeadLength + 1) []

/-- The tunnel over a connection to the proxy. The connection is closed when there is none. -/
def openTunnel (destination : Destination) (authorization : Option String) (options : DialOptions)
    (socket : Socket) : Dial RawStream := do
  let options ← Dial.started options
  match ← Dial.attempt (handshake destination authorization options socket) with
  | .error error =>
      socket.close
      .fail error
  | .ok behind =>
      socket.setReadLimit none
      socket.setWriteLimit none
      return .tunneled ⟨behind, socket⟩

/-- A connection to the destination through an HTTP proxy. -/
def dial (proxy : Proxy) (destination : Destination) (options : DialOptions) : Dial Connection := do
  let options ← Dial.started options
  let socket ← connectTo proxy.address options
  let raw ← openTunnel destination proxy.authorization options socket
  return ⟨.plain raw, destination.authority⟩

end ProxyDial.Http
