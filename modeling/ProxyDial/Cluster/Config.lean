import ProxyDial.Cluster.ContactPoint
import ProxyDial.Dial.Direct
import ProxyDial.Dial.Host

set_option autoImplicit false

/-! What a cluster is reached with: its contact points, who logs in, and how connections are dialed,
protected and resolved. A host dialer takes the whole list and protects what it dials; with any
other way, the cluster walks the list and protects each connection itself. -/

namespace ProxyDial
open Text

/-- How diagnostics name a dialer of one address at a time. -/
def ProxyDialer.shownAsAddressDialer (dialer : ProxyDialer) : String :=
  record "AddressDialer" [("proxy", dialer.shown)]

structure ClusterConfig where
  hosts : List String
  /-- Only the contact points are connected to. -/
  contactPointsOnly : Bool
  login : Option Credentials
  /-- What the cluster protects connections with, unless a host dialer does. -/
  tls : Option TlsConfig
  dialer : Option ProxyDialer
  hostDialer : Option HostDialer
  /-- The resolver of contact points; without it, the one for all. -/
  resolver : Option Resolver
  options : DialOptions

namespace ClusterConfig

def ofHosts (hosts : List String) : ClusterConfig :=
  ⟨hosts, true, none, none, none, none, none, .default⟩

/-- The addresses of the contact points, in their order. -/
def contactPoints (config : ClusterConfig) : Candidates := ⟨config.hosts.map ContactPoint.ofEntry⟩

/-- A connection to one contact point, without protection. -/
def dialAddress (config : ClusterConfig) (address : String) : Dial Connection :=
  match config.dialer with
  | some dialer => dialer.dialAddress address
  | none => DirectDialer.dial ⟨config.resolver, config.options⟩ address

/-- A connection to one contact point, with the protection that the cluster asks for. -/
def openAddress (config : ClusterConfig) (address : String) : Dial Connection := do
  let connection ← config.dialAddress address
  match config.tls with
  | some tls => connection.protect tls config.options
  | none => return connection

/-- A connection to the first contact point that is reached. -/
def openConnection (config : ClusterConfig) : Dial Connection :=
  match config.hostDialer with
  | some dialer => dialer.dial config.contactPoints
  | none => firstReachable config.contactPoints config.openAddress

/-- The addresses of all contact points. One that has none fails them all. -/
def resolveContactPoints (config : ClusterConfig) : Dial (List SocketAddress) := do
  let resolver ← match config.resolver with
    | some resolver => pure resolver
    | none => Resolver.current
  let addresses ← config.contactPoints.addresses.mapM fun address => do
    let destination ← Dial.ofExcept (Destination.parse address)
    resolver.lookup destination.host destination.port
  return addresses.flatten

def shown (config : ClusterConfig) : String :=
  record "ClusterConfig"
    [("hosts", sequence (config.hosts.map quoted)),
      ("disable_initial_host_lookup", toString config.contactPointsOnly),
      ("authenticator", optional (config.login.map (Credentials.shownAs "PasswordAuthenticator"))),
      ("ssl", optional (config.tls.map TlsConfig.shown)),
      ("dialer", optional (config.dialer.map ProxyDialer.shownAsAddressDialer)),
      ("host_dialer", optional (config.hostDialer.map HostDialer.shown)),
      ("resolver", optional (config.resolver.map Resolver.shown)),
      ("dial_options", config.options.shown)]

end ClusterConfig

end ProxyDial
