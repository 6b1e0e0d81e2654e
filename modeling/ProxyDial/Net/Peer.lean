import ProxyDial.Clock
import ProxyDial.Fault
import ProxyDial.Text.Bytes

set_option autoImplicit false

/-! What is at the other end of a connection. A peer is known by what it does: what a read meets,
and what a call that sends meets, given all that has been sent to it and how much has been received
from it. So it may answer, pipeline, break its output into any pieces, take a part of what is sent
to it, hang up, or keep silent. Everything may take its time, and a call gives up at its limit. -/

namespace ProxyDial
open Text

/-- What a read meets, and how long it takes to come. -/
inductive Arrival
  | data (delay : Duration) (bytes : Bytes)
  /-- The end of the stream. -/
  | closed (delay : Duration)
  /-- A fault of the connection. A read that is merely interrupted is made again and meets none. -/
  | failed (delay : Duration) (fault : Fault)
  /-- Nothing ever comes. -/
  | silence
  deriving DecidableEq, Repr

/-- What a call that sends meets: how much of its bytes is taken. -/
inductive Intake
  /-- One byte is taken, and `more` of those behind it where there are as many. -/
  | taken (delay : Duration) (more : Nat)
  /-- A fault of the connection. A call that is merely interrupted is made again and meets none. -/
  | failed (delay : Duration) (fault : Fault)
  /-- Nothing is ever taken. -/
  | silence
  deriving DecidableEq, Repr

/-- What a call has that waits for something, and how long it waits: the outcome when it comes in
time, else the fault that tells that it is late. -/
def waited {α : Type} (late : Fault) (limit : Option Duration) (delay : Duration)
    (outcome : Except Fault α) : Except Fault α × Duration :=
  match limit with
  | none => (outcome, delay)
  | some limit =>
      if delay.nanoseconds < limit.nanoseconds then (outcome, delay) else (.error late, limit)

/-- What a read of up to `size` bytes makes of an arrival, and the time it takes. -/
def Arrival.meets (limit : Option Duration) (size : Nat) :
    Arrival → Except Fault Bytes × Duration
  | data delay bytes => waited .notReady limit delay (.ok (bytes.take size))
  | closed delay => waited .notReady limit delay (.ok [])
  | failed delay fault => waited .notReady limit delay (.error fault)
  | silence => (.error .notReady, limit.getD ⟨0⟩)

/-- How many further bytes a call takes with the first one, and the time it takes. -/
def Intake.meets (limit : Option Duration) : Intake → Except Fault Nat × Duration
  | taken delay more => waited .notReady limit delay (.ok more)
  | failed delay fault => waited .notReady limit delay (.error fault)
  | silence => (.error .notReady, limit.getD ⟨0⟩)

inductive TlsVersion
  | v12
  | v13
  deriving DecidableEq, Repr

/-- A server's side of a TLS connection. -/
structure TlsServer where
  version : TlsVersion
  /-- The certificates that the server shows, its own one first. -/
  chain : List Bytes
  /-- Whether the server holds the private key of its certificate. -/
  holdsKey : Bool
  /-- The alert for a client that shows these certificates; none for one that is welcome. -/
  alert? : List Bytes → Option String
  /-- What a read of the connection meets once it is protected. -/
  next : (sent : Bytes) → (received : Nat) → Arrival

structure Peer where
  /-- What a read meets after so much has been sent and received. -/
  next : (sent : Bytes) → (received : Nat) → Arrival
  /-- What a call that sends meets after so much has been sent and received. -/
  takes : (sent : Bytes) → (received : Nat) → Intake
  /-- The server that takes a TLS handshake after so much has been sent and received, if there is
  one. -/
  server? : (sent : Bytes) → (received : Nat) → Option TlsServer

/-- How a write goes: what has been sent when it is over, how it ends, and the time it takes. -/
structure Outflow where
  sent : Bytes
  result : Except Fault Unit
  time : Duration
  deriving Repr

/-- The same, when a call has been waited for before. -/
def Outflow.after (time : Duration) (flow : Outflow) : Outflow :=
  { flow with time := ⟨time.nanoseconds + flow.time.nanoseconds⟩ }

namespace Peer

/-- A peer that takes every write and sends a fixed stream, whole, with an ending behind it. -/
def ofStream (stream : Bytes) (ending : Arrival) : Peer where
  next _ received :=
    if received < stream.length then .data ⟨0⟩ (stream.drop received) else ending
  takes _ _ := .taken ⟨0⟩ 0
  server? _ _ := none

/-- Sends bytes behind those that have been sent, in as many calls as the peer makes of it. Each
call may take `limit`; `credit` of the bytes go with the call before them. -/
def outflow (peer : Peer) (limit : Option Duration) (received : Nat) :
    (credit : Nat) → (bytes sent : Bytes) → Outflow
  | _, [], sent => ⟨sent, .ok (), ⟨0⟩⟩
  | credit + 1, byte :: bytes, sent => peer.outflow limit received credit bytes (sent ++ [byte])
  | 0, byte :: bytes, sent =>
      match (peer.takes sent received).meets limit with
      | (.error fault, time) => ⟨sent, .error fault, time⟩
      | (.ok more, time) =>
          (peer.outflow limit received more bytes (sent ++ [byte])).after time

end Peer

/-- What an attempt to connect meets. -/
inductive Reception
  | accepted (delay : Duration) (peer : Peer)
  | refused (delay : Duration) (fault : Fault)
  /-- No answer ever comes. -/
  | silence

/-- What comes of an attempt to connect that may take a time, and how long it takes. -/
def Reception.meets (limit : Duration) : Reception → Except Fault Peer × Duration
  | accepted delay peer => waited .connectTimedOut (some limit) delay (.ok peer)
  | refused delay fault => waited .connectTimedOut (some limit) delay (.error fault)
  | silence => (.error .connectTimedOut, limit)

end ProxyDial
