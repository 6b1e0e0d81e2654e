import ProxyDial.Dial.Resolver
import ProxyDial.Dns.Message
import ProxyDial.Net.Peer

set_option autoImplicit false

/-! The world that dials take place in: a network of peers, the connections made to them, a clock,
and the resolver that is installed for all. A dial is a computation that reads and changes the
world. When it fails, the world keeps what it has done to it. Time passes in calls that wait for a
peer, in lookups, and behind every look at the clock. -/

namespace ProxyDial
open Text

/-- A connection and what has become of it. -/
structure Link where
  address : SocketAddress
  peer : Peer
  sent : Bytes
  received : Nat
  isOpen : Bool
  nodelay : Bool
  /-- How long a read, or a write, may take. -/
  readLimit : Option Duration
  writeLimit : Option Duration
  /-- The server's side once the connection is protected, and what has been sent and received since.
  -/
  tls : Option (TlsServer × Bytes × Nat)

/-- What an attempt to connect meets: the number of attempts made at the address before, and the
address. -/
abbrev Network := Nat → SocketAddress → Reception

namespace Network

/-- A host without any network: no address has a route. -/
def isolated : Network := fun _ _ => .refused ⟨0⟩ .unreachable

end Network

/-- The addresses that the system has for a host name, or what it says when it has none. -/
abbrev SystemNames := String → Except String (List IpAddress)

/-- What the clock is asked for: the deadline of a dial that starts, or the time that a call may
take. -/
inductive Ask.Kind
  | starts
  | draws
  deriving DecidableEq, Repr

/-- A look at the clock: what it is asked for, with which options, and the instant that it shows. -/
structure Ask where
  kind : Ask.Kind
  options : DialOptions
  now : Instant
  deriving DecidableEq, Repr

/-- The looks at the clock that dials have taken, and how long it takes to go on behind each. -/
structure Watch where
  pauses : Nat → Duration
  asks : List Ask

/-- A watch on dials that go on at once. -/
def Watch.prompt : Watch := ⟨fun _ => ⟨0⟩, []⟩

structure World where
  network : Network
  names : SystemNames
  links : List Link
  now : Instant
  /-- Seconds since 1970 when the clock was started. -/
  epoch : Nat
  /-- The numbers that are drawn at random, and how many have been. -/
  numbers : Nat → UInt16
  drawn : Nat
  /-- The resolver that is installed for all. -/
  installed : Option Resolver
  /-- The hosts and ports that custom resolvers have been asked for. -/
  asked : List (String × UInt16)
  /-- The addresses that connections have been attempted to, in their order. -/
  attempts : List SocketAddress := []
  /-- How long it takes to look a host name up at an instant. -/
  lookupTime : Instant → String → Duration := fun _ _ => ⟨0⟩
  watch : Watch := .prompt
  /-- How the bytes of a DNS message are read: the message, or what is wrong with them. -/
  codec : Bytes → Except String Dns.Message := Dns.Message.read

namespace World

/-- A host without any network, at the start of its clock. -/
def isolated : World where
  network := .isolated
  names _ := .error "no names"
  links := []
  now := ⟨0⟩
  epoch := 0
  numbers _ := 0
  drawn := 0
  installed := none
  asked := []

/-- The world after some time. -/
def wait (duration : Duration) (world : World) : World :=
  { world with now := ⟨world.now.nanoseconds + duration.nanoseconds⟩ }

/-- The world after a look at the clock, and after the pause behind it. -/
def looked (kind : Ask.Kind) (options : DialOptions) (world : World) : World :=
  { world.wait (world.watch.pauses world.watch.asks.length) with
    watch := { world.watch with asks := world.watch.asks ++ [⟨kind, options, world.now⟩] } }

/-- How often a connection to an address has been attempted. -/
def attemptCount (address : SocketAddress) (world : World) : Nat := world.attempts.count address

/-- The world after an attempt to connect that has taken some time. -/
def attempted (address : SocketAddress) (time : Duration) (world : World) : World :=
  { world.wait time with attempts := world.attempts ++ [address] }

end World

/-- Why a dial ends early. -/
inductive Abort
  | failed (error : Error)
  /-- A deadline lies beyond the last instant of the clock. Nothing recovers from this. -/
  | clockOverflow
  deriving DecidableEq, Repr

/-- A computation in the world. -/
abbrev Dial := ExceptT Abort (StateM World)

namespace Dial

def fail {α : Type} (error : Error) : Dial α := throw (.failed error)

def ofExcept {α : Type} : Except Error α → Dial α
  | .ok value => pure value
  | .error error => fail error

/-- The outcome of a dial that may fail. -/
def attempt {α : Type} (dial : Dial α) : Dial (Except Error α) := fun world =>
  match dial world with
  | (.ok value, world) => (.ok (.ok value), world)
  | (.error (.failed error), world) => (.ok (.error error), world)
  | (.error .clockOverflow, world) => (.error .clockOverflow, world)

/-- The value of a socket call; a fault becomes an error. -/
def orFail {α : Type} (classify : Fault → Error) : Except Fault α → Dial α
  | .ok value => pure value
  | .error fault => fail (classify fault)

/-- The present instant. -/
def look (kind : Ask.Kind) (options : DialOptions) : Dial Instant := do
  let world ← get
  set (world.looked kind options)
  return world.now

/-- The options of a dial that starts now. -/
def started (options : DialOptions) : Dial DialOptions := do
  match options.started? (← look .starts options) with
  | some options => return options
  | none => throw .clockOverflow

/-- A number of sixteen bits that nobody can guess. -/
def drawNumber : Dial UInt16 := do
  let world ← get
  set { world with drawn := world.drawn + 1 }
  return world.numbers world.drawn

/-- Seconds since 1970. -/
def calendarTime : Dial Nat := do
  let world ← get
  return world.epoch + world.now.nanoseconds / Duration.perSecond

/-- The time that the next step may take. -/
def budget (options : DialOptions) : Dial Duration := do
  ofExcept (options.budget (← look .draws options))

/-- Waits until a host name has been looked up. -/
def awaitLookup (host : String) : Dial Unit :=
  modify fun world => world.wait (world.lookupTime world.now host)

end Dial

/-- A connection in the world. -/
structure Socket where
  id : Nat
  deriving DecidableEq, Repr

namespace Socket

def update (change : Link → Link) (socket : Socket) : Dial Unit :=
  modify fun world => { world with links := world.links.modify socket.id change }

/-- Attempts to connect, within a time. -/
def connect (address : SocketAddress) (limit : Duration) : Dial (Except Fault Socket) := do
  let world ← get
  let (result, time) := (world.network (world.attemptCount address) address).meets limit
  set (world.attempted address time)
  match result with
  | .error fault => return .error fault
  | .ok peer =>
      let link : Link := ⟨address, peer, [], 0, true, false, none, none, none⟩
      modify fun world => { world with links := world.links ++ [link] }
      return .ok ⟨world.links.length⟩

def setNodelay (socket : Socket) : Dial Unit := socket.update ({ · with nodelay := true })

def setReadLimit (limit : Option Duration) (socket : Socket) : Dial Unit :=
  socket.update ({ · with readLimit := limit })

def setWriteLimit (limit : Option Duration) (socket : Socket) : Dial Unit :=
  socket.update ({ · with writeLimit := limit })

def close (socket : Socket) : Dial Unit := socket.update ({ · with isOpen := false })

/-- Up to `size` bytes of what arrives; none at the end of the stream. -/
def receive (limit : Option Duration) (size : Nat) (arrival : Arrival) :
    Dial (Except Fault Bytes) := do
  let (result, time) := arrival.meets limit size
  modify (World.wait time)
  return result

/-- Up to `size` bytes from the peer; none at the end of the stream. -/
def read (size : Nat) (socket : Socket) : Dial (Except Fault Bytes) := do
  match (← get).links[socket.id]? with
  | none => return .error (.plain .notConnected)
  | some link =>
      if !link.isOpen || size = 0 then return .ok []
      let result ← receive link.readLimit size (link.peer.next link.sent link.received)
      if let .ok bytes := result then
        socket.update ({ · with received := link.received + bytes.length })
      return result

/-- Waits while bytes go out, and notes what has been sent by then. -/
def pour (flow : Outflow) (note : Bytes → Link → Link) (socket : Socket) :
    Dial (Except Fault Unit) := do
  modify (World.wait flow.time)
  socket.update (note flow.sent)
  return flow.result

/-- Sends the bytes, in as many calls as it takes. Where one of them fails, those before it have
sent their part. -/
def write (bytes : Bytes) (socket : Socket) : Dial (Except Fault Unit) := do
  match (← get).links[socket.id]? with
  | none => return .error (.plain .notConnected)
  | some link =>
      if !link.isOpen then return .error (.system .brokenPipe 32 "Broken pipe")
      let flow := link.peer.outflow link.writeLimit link.received 0 bytes link.sent
      socket.pour flow fun sent link => { link with sent := sent }

/-- The server that takes a TLS handshake which has just been started. -/
def server? (socket : Socket) : Dial (Option TlsServer) := do
  return (← get).links[socket.id]?.bind fun link => link.peer.server? link.sent link.received

/-- What a peer does on a connection that has been protected. -/
def protect (server : TlsServer) (socket : Socket) : Dial Unit :=
  socket.update ({ · with tls := some (server, [], 0) })

/-- Up to `size` bytes that the peer sends protected; none at the end of the stream. -/
def readProtected (size : Nat) (socket : Socket) : Dial (Except Fault Bytes) := do
  match (← get).links[socket.id]? with
  | none => return .error (.plain .notConnected)
  | some link =>
      match link.tls with
      | none => return .error (.plain .notConnected)
      | some (server, sent, received) =>
          if !link.isOpen || size = 0 then return .ok []
          let result ← receive link.readLimit size (server.next sent received)
          if let .ok bytes := result then
            socket.update ({ · with tls := some (server, sent, received + bytes.length) })
          return result

/-- Sends the bytes protected, behind all that has been sent before. -/
def writeProtected (bytes : Bytes) (socket : Socket) : Dial (Except Fault Unit) := do
  match (← get).links[socket.id]? with
  | none => return .error (.plain .notConnected)
  | some link =>
      match link.tls with
      | none => return .error (.plain .notConnected)
      | some (server, sent, received) =>
          if !link.isOpen then return .error (.system .brokenPipe 32 "Broken pipe")
          let flow := link.peer.outflow link.writeLimit (link.received + received) 0 bytes
            (link.sent ++ sent)
          socket.pour flow fun all other =>
            { other with tls := some (server, all.drop link.sent.length, received) }

end Socket

end ProxyDial
