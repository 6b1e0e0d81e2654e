import ProxyDial.Tls.Chain
import ProxyDial.Tls.Config

set_option autoImplicit false

/-! Whether a client trusts a server. The certificate of the server must be traced back to an
anchor, and must have been issued for the name that the client expects; a client may do without the
second, never without the first. -/

namespace ProxyDial.TlsConfig
open Text Tls

/-- Whether a certificate can be traced back to an anchor, whatever its names. -/
def checkChain (config : TlsConfig) (server : Bytes) (issuers : List Bytes) (now : Nat) :
    Except CertificateFault Certificate := do
  let certificate ← Certificate.ofBytes .refuse server
  Chain.check config.anchors certificate issuers now
  return certificate

/-- Whether a certificate has been issued for the expected name. A client that skips the
verification of hosts does not mind when it has been issued for others. -/
def checkName (config : TlsConfig) (expected : ServerName) (certificate : Certificate) :
    Except CertificateFault Unit :=
  match expected.check certificate with
  | .error (.wrongName name presented) =>
      if config.skipsHostVerification then .ok () else .error (.wrongName name presented)
  | verdict => verdict

/-- Whether a client trusts a server that shows these certificates, its own one first. -/
def checkServer (config : TlsConfig) (expected : ServerName) (chain : List Bytes) (now : Nat) :
    Except CertificateFault Unit := do
  let certificate ← config.checkChain (chain.headD []) chain.tail now
  config.checkName expected certificate

end ProxyDial.TlsConfig
