import ProxyDial.Net.World
import ProxyDial.Stream.Rewind

set_option autoImplicit false

/-! The streams that dials end with. A tunneled stream may hold bytes that came right behind the
proxy's answer; a protected one sends and receives through TLS. -/

namespace ProxyDial
open Text

/-- An unprotected stream. -/
inductive RawStream
  /-- Nothing stands between the reader and the socket. -/
  | direct (socket : Socket)
  | tunneled (stream : Rewind Socket)
  deriving DecidableEq, Repr

namespace RawStream

def socket : RawStream → Socket
  | direct socket => socket
  | tunneled stream => stream.inner

/-- How many bytes are held back. -/
def buffered : RawStream → Nat
  | direct _ => 0
  | tunneled stream => stream.buffered

/-- Bounds every later read and write. -/
def setLimit (limit : Option Duration) (stream : RawStream) : Dial Unit := do
  stream.socket.setReadLimit limit
  stream.socket.setWriteLimit limit

def readSocket (size : Nat) (socket : Socket) : Dial (Except Fault Bytes × Socket) := do
  return (← socket.read size, socket)

/-- Up to `size` bytes, and the stream behind them. -/
def read (size : Nat) : RawStream → Dial (Except Fault Bytes × RawStream)
  | direct socket => do return (← socket.read size, direct socket)
  | tunneled stream => do
      let (result, stream) ← stream.read readSocket size
      return (result, tunneled stream)

def write (bytes : Bytes) (stream : RawStream) : Dial (Except Fault Unit) :=
  stream.socket.write bytes

end RawStream

/-- What is left of a handshake once a stream is protected. -/
structure TlsSession where
  version : TlsVersion
  /-- The alert that the first read meets, when the server refuses the client only now. -/
  pending : Option String
  deriving DecidableEq, Repr

/-- A stream, protected or not. It is protected once at most. -/
inductive Transport
  | plain (raw : RawStream)
  | tls (raw : RawStream) (session : TlsSession)
  deriving DecidableEq, Repr

namespace Transport

def raw : Transport → RawStream
  | plain raw | tls raw _ => raw

def isTls : Transport → Bool
  | plain _ => false
  | tls _ _ => true

def close (transport : Transport) : Dial Unit := transport.raw.socket.close

end Transport

/-- An open stream and the address that it leads to. -/
structure Connection where
  transport : Transport
  address : String
  deriving DecidableEq, Repr

namespace Connection

def isTls (connection : Connection) : Bool := connection.transport.isTls

def socket (connection : Connection) : Socket := connection.transport.raw.socket

def close (connection : Connection) : Dial Unit := connection.transport.close

def setLimit (limit : Option Duration) (connection : Connection) : Dial Unit :=
  connection.transport.raw.setLimit limit

/-- Up to `size` bytes, and the connection behind them. -/
def read (size : Nat) (connection : Connection) : Dial (Except Fault Bytes × Connection) :=
  match connection.transport with
  | .plain raw => do
      let (result, raw) ← raw.read size
      return (result, { connection with transport := .plain raw })
  | .tls raw session => do
      match session.pending with
      | some alert =>
          return (.error (.told .invalidData (Tls.Fault.alert alert).message), connection)
      | none =>
          let result ← raw.socket.readProtected size
          return (result, connection)

def write (bytes : Bytes) (connection : Connection) : Dial (Except Fault Unit) :=
  match connection.transport with
  | .plain raw => raw.write bytes
  | .tls raw _ => raw.socket.writeProtected bytes

end Connection

end ProxyDial
