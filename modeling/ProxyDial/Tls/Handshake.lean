import ProxyDial.Destination
import ProxyDial.Net.Stream
import ProxyDial.Tls.Record
import ProxyDial.Tls.Verifier

set_option autoImplicit false

/-! Protecting a connection that has been dialed. The handshake is over before the connection is
handed out, so that a certificate which is not trusted fails the dial. A connection is protected
once at most, and one that cannot be is closed. -/

namespace ProxyDial
open Text

namespace Tls

/-- What a handshake starts with. What follows is drawn for each handshake anew. -/
def helloMark : Bytes := [0x16]

/-- A fault of the connection in a handshake. -/
def classify (fault : ProxyDial.Fault) : Error :=
  if fault.isTimeout then .ofFault fault else .tls (.fault fault)

/-- Bounds the next step by what is left of the budget. -/
def limitStep (options : DialOptions) (raw : RawStream) : Dial Unit := do
  raw.setLimit (some (← Dial.budget options))

/-- Reads from a peer that is no server until it is clear what is wrong with its bytes. Every read
brings more of them, and a whole record is clear, so `room` for a record is enough. -/
def awaitFault {α : Type} (host : String) (options : DialOptions) :
    (room : Nat) → (seen : Bytes) → RawStream → Dial α
  | 0, _, _ => .fail .timeout
  | room + 1, seen, raw => do
      limitStep options raw
      let (result, raw) ← raw.read (Record.lengthLimit + 5)
      match ← Dial.orFail classify result with
      | [] => .fail (.tls (.closedDuringHandshake host))
      | bytes =>
          match Record.fault? (seen ++ bytes) with
          | some fault => .fail (.tls (.tls fault))
          | none => awaitFault host options room (seen ++ bytes) raw

/-- Checks the server, shows it the identity it asks for, and protects the connection. A server of
the newer version tells only behind the handshake that it refuses a client. -/
def agree (name : ServerName) (config : TlsConfig) (server : TlsServer) (raw : RawStream) :
    Dial TlsSession := do
  match config.checkServer name server.chain (← Dial.calendarTime) with
  | .error fault => .fail (.tls (.tls (.certificate fault)))
  | .ok () =>
      if !server.holdsKey then .fail (.tls (.tls (.certificate .badSignature)))
      else
        match server.alert? ((config.identity.map (·.chain)).getD []), server.version with
        | some alert, .v12 => .fail (.tls (.tls (.alert alert)))
        | refusal, version =>
            raw.socket.protect server
            raw.setLimit none
            return ⟨version, refusal⟩

/-- The handshake with the server of a host. -/
def handshake (host : String) (config : TlsConfig) (options : DialOptions)
    (raw : RawStream) : Dial TlsSession := do
  match ServerName.ofString? host with
  | none => .fail (.config (.invalidServerName host))
  | some name =>
      limitStep options raw
      Dial.orFail classify (← raw.write helloMark)
      match ← raw.socket.server? with
      | some server =>
          if raw.buffered = 0 then
            limitStep options raw
            agree name config server raw
          else awaitFault host options (Record.lengthLimit + 6) [] raw
      | none => awaitFault host options (Record.lengthLimit + 6) [] raw

end Tls

namespace Transport

/-- Protects a stream to a host. -/
def protect (host : String) (config : TlsConfig) (options : DialOptions) (transport : Transport) :
    Dial Transport := do
  let options ← Dial.started options
  match transport with
  | .tls raw _ =>
      raw.socket.close
      .fail (.config (.alreadyEncrypted host))
  | .plain raw =>
      match ← Dial.attempt (Tls.handshake host config options raw) with
      | .ok session => return .tls raw session
      | .error error =>
          raw.socket.close
          .fail error

end Transport

namespace Connection

/-- Protects a dialed connection. The host of its address is the name that the server must have. -/
def protect (config : TlsConfig) (options : DialOptions) (connection : Connection) :
    Dial Connection := do
  let options ← Dial.started options
  match Destination.parse connection.address with
  | .error error =>
      connection.close
      .fail error
  | .ok destination =>
      let transport ← connection.transport.protect destination.host config options
      return { connection with transport := transport }

end Connection

end ProxyDial
