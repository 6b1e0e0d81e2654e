import ProxyDial.Cluster.Handle
import ProxyDial.Settings

set_option autoImplicit false

/-! From settings to a cluster. The proxy comes first, then the resolver that asks through it,
before anything could look a name up; then the dialer, what it protects connections with, and the
login. -/

namespace ProxyDial.Cluster
open Text

/-- Installs the nameserver of the settings for a proxy. Without a proxy it has no use. -/
def withSettingsNameserver (cluster : Cluster) (proxy : Option (Proxy × DialerShape))
    (nameserver : Option String) : Dial Cluster := do
  match proxy, nameserver with
  | some (proxy, _), some nameserver =>
      let resolver ← installNameserver proxy nameserver cluster.config.options
      return cluster.withResolver (some (.proxied resolver))
  | _, _ => return cluster

def withSettingsProxy (cluster : Cluster) :
    Option (Proxy × DialerShape) → Except Error Cluster
  | some (proxy, shape) => cluster.withProxy proxy shape
  | none => .ok cluster

/-- The configuration that TLS settings make. -/
def tlsOfSettings (settings : TlsSettings) : Except Error TlsConfig :=
  TlsConfig.ofTexts (utf8 settings.authority) (settings.certificate.map utf8)
    (settings.key.map utf8) settings.skipHostVerification

def withSettingsTls (cluster : Cluster) : Option TlsSettings → Except Error Cluster
  | some settings => do return cluster.withTls (← tlsOfSettings settings)
  | none => .ok cluster

/-- The cluster that settings describe. -/
def ofSettings (settings : Settings) (environment : Environment) : Dial Cluster := do
  Dial.ofExcept settings.validate
  let keyspace := (settings.authKeyspace.filter (· ≠ "")).getD defaultAuthKeyspace
  let cluster :=
    ((ofHosts settings.hosts).withOptions settings.dialOptions).withAuthKeyspace keyspace
  let proxy ← Dial.ofExcept (Proxy.resolveWithShape settings.proxy environment)
  let cluster ← withSettingsNameserver cluster proxy settings.nameserver?
  let cluster ← Dial.ofExcept (withSettingsProxy cluster proxy)
  let cluster ← Dial.ofExcept (withSettingsTls cluster settings.tls)
  match settings.login with
  | some login => return cluster.withLogin login
  | none => return cluster

end ProxyDial.Cluster
