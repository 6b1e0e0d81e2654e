import ProxyDial.Cluster.Config
import ProxyDial.Proxy.Resolve

set_option autoImplicit false

/-! A cluster and the connection that is open to it. Every step of its setup gives a new handle; a
step that fails gives none, so that the old one is what remains. -/

namespace ProxyDial
open Text

structure Cluster where
  config : ClusterConfig
  /-- Where roles and permissions are kept. -/
  authKeyspace : String
  /-- The proxy that is installed. -/
  proxy : Option Proxy
  session : Option Connection

namespace Cluster

def defaultAuthKeyspace : String := "system_auth"

def ofHosts (hosts : List String) : Cluster := ⟨.ofHosts hosts, defaultAuthKeyspace, none, none⟩

def withLogin (cluster : Cluster) (login : Credentials) : Cluster :=
  { cluster with config := { cluster.config with login := some login } }

def withAuthKeyspace (cluster : Cluster) (name : String) : Cluster :=
  { cluster with authKeyspace := name }

def withOptions (cluster : Cluster) (options : DialOptions) : Cluster :=
  { cluster with config := { cluster.config with options := options } }

def withResolver (cluster : Cluster) (resolver : Option Resolver) : Cluster :=
  { cluster with config := { cluster.config with resolver := resolver } }

/-- The host dialer through a proxy. It takes over what the cluster protects connections with. -/
def hostDialer (cluster : Cluster) (proxy : Proxy) : Except Error HostDialer := do
  let dialer := (← HostDialer.ofProxy proxy).withOptions cluster.config.options
  match cluster.config.tls with
  | some tls => return dialer.withTls tls
  | none => return dialer

/-- Installs a dialer of the given shape through a proxy. It takes the place of any other one. -/
def withProxy (cluster : Cluster) (proxy : Proxy) : DialerShape → Except Error Cluster
  | .host => do
      let dialer ← cluster.hostDialer proxy
      return { cluster with
        config := { cluster.config with dialer := none, hostDialer := some dialer, tls := none }
        proxy := some proxy }
  | .address =>
      let dialer := (ProxyDialer.ofProxy proxy).withOptions cluster.config.options
      .ok { cluster with
        config := { cluster.config with dialer := some dialer, hostDialer := none }
        proxy := some proxy }

/-- Installs the proxy that a text or the environment names, with the dialer that suits it; also
tells the proxy. Where none is named, nothing changes. -/
def withNamedProxy (cluster : Cluster) (explicit : Option String) (environment : Environment) :
    Except Error (Cluster × Option Proxy) := do
  match ← Proxy.resolveWithShape explicit environment with
  | none => return (cluster, none)
  | some (proxy, shape) => return (← cluster.withProxy proxy shape, some proxy)

/-- Protects connections from now on, in whatever way they are dialed. -/
def withTls (cluster : Cluster) (tls : TlsConfig) : Cluster :=
  let config := match cluster.config.hostDialer with
    | some dialer => { cluster.config with hostDialer := some (dialer.withTls tls) }
    | none => { cluster.config with tls := some tls }
  { cluster with config := config }

/-- The resolver that asks a nameserver through a proxy, made the one for all. -/
def installNameserver (proxy : Proxy) (nameserver : String) (options : DialOptions) :
    Dial ProxiedResolver := do
  let dialer := (ProxyDialer.ofProxy proxy).withOptions options
  let resolver ← Dial.ofExcept (ProxiedResolver.ofText dialer nameserver)
  Resolver.install (.proxied resolver)
  return resolver

/-- Looks names up through the installed proxy from now on, for this cluster and for all; also tells
the resolver. -/
def withNameserver (cluster : Cluster) (nameserver : String) :
    Dial (Cluster × ProxiedResolver) := do
  match cluster.proxy with
  | none => .fail (.config .resolverWithoutProxy)
  | some proxy =>
      let resolver ← installNameserver proxy nameserver cluster.config.options
      return (cluster.withResolver (some (.proxied resolver)), resolver)

/-- Closes the session, if there is one. -/
def closeSession (cluster : Cluster) : Dial Cluster := do
  if let some session := cluster.session then session.close
  return { cluster with session := none }

/-- Opens a session. It takes the place of any other one. -/
def createSession (cluster : Cluster) : Dial Cluster := do
  let connection ← cluster.config.openConnection
  let cluster ← cluster.closeSession
  return { cluster with session := some connection }

end Cluster

end ProxyDial
