import ProxyDial.Cluster.Call

set_option autoImplicit false

/-! Calls that work on a cluster handle in place, as its holder makes them. A call reads and writes
the places of the handle one after the other. What it has written when it fails stays written. -/

namespace ProxyDial
open Text

/-- A handle, and the world that it is in. -/
structure Held where
  cluster : Cluster
  world : World

/-- A computation that reads and writes a handle. -/
abbrev InPlace := ExceptT Abort (StateM Held)

namespace InPlace

/-- What is done in the world, with the handle at hand. -/
def dial {α : Type} (dial : Dial α) : InPlace α := fun held =>
  let (result, world) := dial held.world
  (result, { held with world := world })

def ofExcept {α : Type} (outcome : Except Error α) : InPlace α := dial (Dial.ofExcept outcome)

def cluster : InPlace Cluster := return (← get).cluster

def config : InPlace ClusterConfig := return (← cluster).config

def write (change : Cluster → Cluster) : InPlace Unit :=
  modify fun held => { held with cluster := change held.cluster }

def writeConfig (change : ClusterConfig → ClusterConfig) : InPlace Unit :=
  write fun cluster => { cluster with config := change cluster.config }

/-- Takes away what the cluster itself protects connections with. -/
def takeTls : InPlace (Option TlsConfig) := do
  let tls := (← config).tls
  writeConfig ({ · with tls := none })
  return tls

/-- Takes the session away. -/
def takeSession : InPlace (Option Connection) := do
  let session := (← cluster).session
  write ({ · with session := none })
  return session

/-- Installs a dialer through a proxy. The cluster's TLS moves to a host dialer. -/
def installProxy (proxy : Proxy) : DialerShape → InPlace Unit
  | .host => do
      let bare := (← ofExcept (HostDialer.ofProxy proxy)).withOptions (← config).options
      let dialer := match ← takeTls with
        | some tls => bare.withTls tls
        | none => bare
      writeConfig ({ · with dialer := none })
      writeConfig ({ · with hostDialer := some dialer })
      write ({ · with proxy := some proxy })
  | .address => do
      let dialer := (ProxyDialer.ofProxy proxy).withOptions (← config).options
      writeConfig ({ · with hostDialer := none })
      writeConfig ({ · with dialer := some dialer })
      write ({ · with proxy := some proxy })

/-- Installs the proxy that a text or the environment names; tells the proxy. -/
def setProxy (explicit : Option String) (environment : Environment) : InPlace (Option Proxy) := do
  match ← ofExcept (Proxy.resolveWithShape explicit environment) with
  | none => return none
  | some (proxy, shape) =>
      installProxy proxy shape
      return (← cluster).proxy

/-- Looks names up through the installed proxy; tells the resolver. -/
def setNameserver (nameserver : String) : InPlace ProxiedResolver := do
  match (← cluster).proxy with
  | none => dial (.fail (.config .resolverWithoutProxy))
  | some proxy =>
      let options := (← config).options
      let resolver ← dial (Cluster.installNameserver proxy nameserver options)
      writeConfig ({ · with resolver := some (.proxied resolver) })
      return resolver

/-- Hands TLS to the host dialer where one is installed, and to the cluster otherwise. -/
def setTls (authority : Bytes) (certificate key : Option Bytes) (skip : Bool) : InPlace Unit := do
  let tls ← ofExcept (TlsConfig.ofTexts authority certificate key skip)
  match (← config).hostDialer with
  | some dialer => writeConfig ({ · with hostDialer := some (dialer.withTls tls) })
  | none => writeConfig ({ · with tls := some tls })

def closeSession : InPlace Unit := do
  if let some session ← takeSession then dial session.close

/-- Opens a session. The one before it is closed once the new one has taken its place. -/
def createSession : InPlace Unit := do
  let connection ← dial (← config).openConnection
  let before ← takeSession
  write ({ · with session := some connection })
  if let some session := before then dial session.close

/-- Makes a call. -/
def call : Call → InPlace Unit
  | .setLogin login => write (·.withLogin login)
  | .setAuthKeyspace name => write (·.withAuthKeyspace name)
  | .setOptions options => write (·.withOptions options)
  | .setProxy explicit environment => discard <| setProxy explicit environment
  | .installProxy proxy shape => installProxy proxy shape
  | .setNameserver nameserver => discard <| setNameserver nameserver
  | .setTls authority certificate key skip => setTls authority certificate key skip
  | .createSession => createSession
  | .closeSession => closeSession

end InPlace

namespace Held

/-- A handle that has just been made. -/
def start (hosts : List String) (world : World) : Held := ⟨.ofHosts hosts, world⟩

/-- What a call leaves, whether it succeeds or fails. -/
def call (held : Held) (call : Call) : Held := (InPlace.call call held).2

def calls (held : Held) (calls : List Call) : Held := calls.foldl Held.call held

end Held

end ProxyDial
