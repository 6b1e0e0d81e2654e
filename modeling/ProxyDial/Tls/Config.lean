import ProxyDial.Error
import ProxyDial.Text.Record
import ProxyDial.Tls.Certificate
import ProxyDial.Tls.Key

set_option autoImplicit false

/-! What connections are protected with: the anchors that the certificates of servers must be traced
back to, whether their names matter, and the identity that is shown to servers that ask for one. -/

namespace ProxyDial
open Text

/-- The texts that TLS is set up from. -/
structure TlsMaterial where
  authority : Bytes
  certificate : Option Bytes
  key : Option Bytes
  skipsHostVerification : Bool
  deriving DecidableEq, Repr

namespace TlsMaterial

def nonEmpty (text : Bytes) : Option Bytes := if text.isEmpty then none else some text

/-- Material with nothing but an authority. -/
def ofAuthority (authority : Bytes) : TlsMaterial := ⟨authority, none, none, false⟩

/-- Shows a certificate to servers. Empty texts count as absent. -/
def withIdentity (material : TlsMaterial) (certificate key : Bytes) : TlsMaterial :=
  { material with certificate := nonEmpty certificate, key := nonEmpty key }

def withSkippedHostVerification (material : TlsMaterial) (skip : Bool) : TlsMaterial :=
  { material with skipsHostVerification := skip }

/-- Material with texts that may be missing. Empty ones count as absent. -/
def ofTexts (authority : Bytes) (certificate key : Option Bytes) (skip : Bool) : TlsMaterial :=
  ⟨authority, certificate.bind nonEmpty, key.bind nonEmpty, skip⟩

/-- The material in diagnostics. Of the key only its presence is shown. -/
def shown (material : TlsMaterial) : String :=
  record "TlsMaterial"
    [("ca_certificate", toString material.authority.length ++ " bytes"),
      ("client_certificate", toString material.certificate.isSome),
      ("client_key", optional (material.key.map fun _ => redacted)),
      ("skip_host_verification", toString material.skipsHostVerification)]

end TlsMaterial

/-- Who a client is: its certificates, the own one first, and the key that it can prove to hold. -/
structure ClientIdentity where
  chain : List Bytes
  key : Tls.PublicKey
  deriving DecidableEq, Repr

structure TlsConfig where
  anchors : List Tls.TrustAnchor
  skipsHostVerification : Bool
  identity : Option ClientIdentity
  deriving DecidableEq, Repr

namespace TlsConfig

/-- Whether the name of a server must be one that its certificate has been issued for. -/
def verifiesHost (config : TlsConfig) : Bool := !config.skipsHostVerification

/-- Whether servers are shown a certificate. -/
def isMutual (config : TlsConfig) : Bool := config.identity.isSome

/-- The configuration in diagnostics. -/
def shown (config : TlsConfig) : String :=
  openRecord "TlsConfig"
    [("host_verification", toString config.verifiesHost), ("mutual", toString config.isMutual)]

def isAsciiBlank (byte : UInt8) : Bool :=
  byte = 0x20 || byte = 0x09 || byte = 0x0a || byte = 0x0c || byte = 0x0d

/-- The certificates that a text holds. There is at least one. -/
def readCertificates (what : String) (text : Bytes) : Except Error (List Bytes) :=
  match Pem.sections text with
  | (_, some problem) => .error (.config (.unreadablePem what problem.message))
  | (sections, none) =>
      match sections.filter (·.label = .certificate) with
      | [] => .error (.config (.noCertificates what))
      | certificates => .ok (certificates.map (·.content))

def readAnchor (certificate : Bytes) : Except Error Tls.TrustAnchor :=
  match Tls.TrustAnchor.ofBytes certificate with
  | .ok anchor => .ok anchor
  | .error fault => .error (.config (.invalidAuthority (.certificate fault)))

/-- The anchors that a text holds. There is at least one. -/
def readAnchors (text : Bytes) : Except Error (List Tls.TrustAnchor) := do
  if text.all isAsciiBlank then throw (.config .emptyAuthority)
  (← readCertificates "CA certificate" text).mapM readAnchor

/-- The first private key that a text holds, and its form. -/
def readKey (text : Bytes) : Except Error (Tls.KeyForm × Bytes) :=
  let (sections, problem) := Pem.sections text
  let key? := sections.findSome? fun found =>
    (Tls.KeyForm.ofLabel? found.label).map fun form => (form, found.content)
  match key?, problem with
  | some key, _ => .ok key
  | none, some problem => .error (.config (.unreadablePem "client key" problem.message))
  | none, none => .error (.config .noPrivateKey)

/-- The identity that certificates and a private key make. The key must be the one that the first
certificate has been issued for. -/
def identityOf (chain : List Bytes) (form : Tls.KeyForm) (key : Bytes) :
    Except Error ClientIdentity :=
  match Tls.PrivateKey.publicKey? form key with
  | none =>
      .error (.tls (.unusableKey (.general "failed to parse private key as RSA, ECDSA, or EdDSA")))
  | some publicKey =>
      match Tls.Certificate.ofBytes .refuse (chain.headD []) with
      | .error fault => .error (.tls (.keyMismatch (.certificate fault)))
      | .ok certificate =>
          if certificate.publicKeyInfo = publicKey.info then .ok ⟨chain, publicKey⟩
          else .error (.tls (.keyMismatch .inconsistentKeys))

def readIdentity (material : TlsMaterial) : Except Error (Option ClientIdentity) :=
  match material.certificate, material.key with
  | none, none => .ok none
  | some _, none => .error (.config .certificateWithoutKey)
  | none, some _ => .error (.config .keyWithoutCertificate)
  | some certificate, some key => do
      let chain ← readCertificates "client certificate" certificate
      let (form, key) ← readKey key
      return some (← identityOf chain form key)

/-- The configuration that material makes. -/
def ofMaterial (material : TlsMaterial) : Except Error TlsConfig := do
  let anchors ← readAnchors material.authority
  let identity ← readIdentity material
  return ⟨anchors, material.skipsHostVerification, identity⟩

/-- The configuration that texts make. Empty ones count as absent. -/
def ofTexts (authority : Bytes) (certificate key : Option Bytes) (skip : Bool) :
    Except Error TlsConfig :=
  ofMaterial (.ofTexts authority certificate key skip)

end TlsConfig

end ProxyDial
