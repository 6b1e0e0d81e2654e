import ProxyDial.Cluster.Handle

set_option autoImplicit false

/-! Calls on a cluster handle, made one after the other. A call that fails leaves the handle as it
was, whatever it has done to the world. -/

namespace ProxyDial
open Text

/-- A call on a handle, with its arguments. -/
inductive Call
  | setLogin (login : Credentials)
  | setAuthKeyspace (name : String)
  | setOptions (options : DialOptions)
  | setProxy (explicit : Option String) (environment : Environment)
  | installProxy (proxy : Proxy) (shape : DialerShape)
  | setNameserver (nameserver : String)
  | setTls (authority : Bytes) (certificate key : Option Bytes) (skip : Bool)
  | createSession
  | closeSession

namespace Cluster

/-- What a call makes of the handle. -/
def perform (cluster : Cluster) : Call → Dial Cluster
  | .setLogin login => return cluster.withLogin login
  | .setAuthKeyspace name => return cluster.withAuthKeyspace name
  | .setOptions options => return cluster.withOptions options
  | .setProxy explicit environment =>
      Dial.ofExcept ((cluster.withNamedProxy explicit environment).map (·.1))
  | .installProxy proxy shape => Dial.ofExcept (cluster.withProxy proxy shape)
  | .setNameserver nameserver => do return (← cluster.withNameserver nameserver).1
  | .setTls authority certificate key skip =>
      Dial.ofExcept ((TlsConfig.ofTexts authority certificate key skip).map cluster.withTls)
  | .createSession => cluster.createSession
  | .closeSession => cluster.closeSession

end Cluster

/-- A handle in the world, and the calls on it that have succeeded, in their order. -/
structure History where
  cluster : Cluster
  world : World
  done : List Call

namespace History

/-- A handle that has just been made. -/
def start (hosts : List String) (world : World) : History := ⟨.ofHosts hosts, world, []⟩

/-- One more call. -/
def call (history : History) (call : Call) : History :=
  match history.cluster.perform call history.world with
  | (.ok cluster, world) => ⟨cluster, world, history.done ++ [call]⟩
  | (.error _, world) => { history with world := world }

def calls (history : History) (calls : List Call) : History := calls.foldl History.call history

end History

end ProxyDial
