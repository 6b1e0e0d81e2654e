import ProxyDial.Der
import ProxyDial.Tls.Fault

set_option autoImplicit false

/-! Certificates: what is read of one before anybody asks whether to trust it, and the anchors that
trust starts from. -/

namespace ProxyDial.Tls
open Text

/-- A certificate. Its parts are kept as they are encoded and read where they are used. -/
structure Certificate where
  /-- What the signature covers. -/
  signed : Bytes
  signatureAlgorithm : Bytes
  signature : Bytes
  issuer : Bytes
  validity : Bytes
  subject : Bytes
  publicKey : Bytes
  keyUsage : Option Bytes
  alternativeNames : Option Bytes
  basicConstraints : Option Bytes
  nameConstraints : Option Bytes
  revocationPoints : Option Bytes
  purposes : Option Bytes
  deriving DecidableEq, Repr

/-- The name and key that certificates may be traced back to, and the names that they may then have.
-/
structure TrustAnchor where
  subject : Bytes
  publicKey : Bytes
  nameConstraints : Option Bytes
  deriving DecidableEq, Repr

/-- What becomes of an extension that nobody knows but that the issuer calls critical. -/
inductive CriticalPolicy
  | refuse
  | ignore
  deriving DecidableEq, Repr

namespace Certificate

/-- Takes values from the front of bytes; a certificate may break a rule. -/
abbrev Parser := StateT Bytes (Except CertificateFault)

def take {α : Type} (reader : Der.Reader α) : Parser α := fun bytes =>
  match reader bytes with
  | some result => .ok result
  | none => .error .badEncoding

def fail {α : Type} (fault : CertificateFault) : Parser α := fun _ => .error fault

/-- Reads all of the bytes. -/
def whole {α : Type} (parser : Parser α) (bytes : Bytes) : Except CertificateFault α :=
  match parser bytes with
  | .ok (result, []) => .ok result
  | .ok _ => .error .badEncoding
  | .error fault => .error fault

def unsupportedVersion : CertificateFault := .rule .version

/-- Certificates have the third version, which is written as 2. -/
def version : Parser Unit := fun bytes =>
  match Der.expect (Der.Tag.wrapped 0) bytes with
  | none => .error unsupportedVersion
  | some (content, rest) =>
      match Der.smallNatural content with
      | none => .error .badEncoding
      | some (number, behind) =>
          if number = 2 && behind.isEmpty then .ok ((), rest) else .error unsupportedVersion

/-- Where the number of a standard extension stands: the numbers before it. -/
private def standardArc : Bytes := [0x55, 0x1d]

/-- The content of an extension that may be there once. -/
def once (present : Option Bytes) (content : Option Bytes) :
    Except CertificateFault (Option Bytes) :=
  match present, content with
  | some _, _ => .error (.rule .extensionValueInvalid)
  | none, none => .error .badEncoding
  | none, some content => .ok (some content)

/-- One more extension. -/
def withExtension (policy : CriticalPolicy) (certificate : Certificate) (id : Bytes)
    (critical : Bool) (content : Bytes) : Except CertificateFault Certificate := do
  let sequence := Der.whole (Der.expect Der.Tag.sequence) content
  match if id.take 2 = standardArc then id.drop 2 else [] with
  | [15] => return { certificate with keyUsage := ← once certificate.keyUsage (some content) }
  | [17] =>
      return { certificate with alternativeNames := ← once certificate.alternativeNames sequence }
  | [19] =>
      return { certificate with basicConstraints := ← once certificate.basicConstraints sequence }
  | [30] =>
      return { certificate with nameConstraints := ← once certificate.nameConstraints sequence }
  | [31] =>
      return { certificate with revocationPoints := ← once certificate.revocationPoints sequence }
  | [37] => return { certificate with purposes := ← once certificate.purposes sequence }
  | _ =>
      if critical && policy = .refuse then throw (.rule .criticalExtension)
      else return certificate

/-- An extension: what it is, whether it is critical, and its content. -/
private def extension : Der.Reader (Bytes × Bool × Bytes) := do
  let id ← Der.expect Der.Tag.objectId
  let critical ← Der.flag
  return (id, critical, ← Der.expect Der.Tag.octetString)

/-- Reads extensions. Each takes at least one byte, so `room` for as many as there are bytes is
enough. -/
def withExtensions (policy : CriticalPolicy) :
    (room : Nat) → Certificate → Bytes → Except CertificateFault Certificate
  | _, certificate, [] => .ok certificate
  | 0, _, _ => .error .badEncoding
  | room + 1, certificate, bytes =>
      match (Der.expect Der.Tag.sequence) bytes with
      | none => .error .badEncoding
      | some (content, rest) =>
          match extension content with
          | none => .error .badEncoding
          | some ((id, critical, content), behind) => do
              let certificate ← withExtension policy certificate id critical content
              if behind.isEmpty then withExtensions policy room certificate rest
              else throw .badEncoding

/-- The part that the signature covers. -/
def contents (policy : CriticalPolicy) (signed algorithm signature : Bytes) :
    Parser Certificate := do
  version
  discard <| take (Der.expect Der.Tag.integer)
  if (← take (Der.expect Der.Tag.sequence)) ≠ algorithm then
    fail (.rule .signatureAlgorithms)
  let issuer ← take (Der.expect Der.Tag.sequence)
  let validity ← take (Der.expect Der.Tag.sequence)
  let subject ← take (Der.expect Der.Tag.sequence)
  let publicKey ← take (Der.expect Der.Tag.sequence)
  let certificate : Certificate :=
    ⟨signed, algorithm, signature, issuer, validity, subject, publicKey,
      none, none, none, none, none, none⟩
  if ← take Der.atEnd then return certificate
  else
    let part ← take (Der.expect (Der.Tag.wrapped 3))
    match Der.expect Der.Tag.sequence part with
    | none => fail .badEncoding
    | some (extensions, behind) =>
        match withExtensions policy extensions.length certificate extensions with
        | .error fault => fail fault
        | .ok certificate =>
            if behind.isEmpty then return certificate else fail .badEncoding

/-- A signed value: the bytes that are signed, the content of the value, the algorithm, and the
signature. -/
private def signedValue : Der.Reader (Bytes × Bytes × Bytes × Bytes) := do
  let before ← get
  let content ← Der.expect Der.Tag.sequence
  let after ← get
  let algorithm ← Der.expect Der.Tag.sequence
  let signature ← Der.wholeBits Der.Tag.bitString
  return (before.take (before.length - after.length), content, algorithm, signature)

/-- The certificate that all of the bytes encode. -/
def ofBytes (policy : CriticalPolicy) (bytes : Bytes) : Except CertificateFault Certificate :=
  match Der.whole (Der.nested Der.Tag.sequence signedValue) bytes with
  | none => .error .badEncoding
  | some (signed, content, algorithm, signature) =>
      whole (contents policy signed algorithm signature) content

/-- The whole description of the public key. -/
def publicKeyInfo (certificate : Certificate) : Bytes :=
  Der.encode Der.Tag.sequence certificate.publicKey

end Certificate

namespace TrustAnchor

def ofCertificate (certificate : Certificate) : TrustAnchor :=
  ⟨certificate.subject, certificate.publicKey, certificate.nameConstraints⟩

/-- The contents of a certificate of the first version, which tells no version and has no
extensions. -/
private def firstVersion : Der.Reader TrustAnchor := do
  let anchor ← Der.nested Der.Tag.sequence do
    discard <| Der.expect Der.Tag.integer
    discard <| Der.expect Der.Tag.sequence
    discard <| Der.expect Der.Tag.sequence
    discard <| Der.expect Der.Tag.sequence
    let subject ← Der.expect Der.Tag.sequence
    return ⟨subject, ← Der.expect Der.Tag.sequence, none⟩
  discard <| Der.expect Der.Tag.sequence
  discard <| Der.expect Der.Tag.bitString
  return anchor

/-- The anchor that a certificate makes. Critical extensions do not stand in its way, nor does an
old version. -/
def ofBytes (bytes : Bytes) : Except CertificateFault TrustAnchor :=
  match Certificate.ofBytes .ignore bytes with
  | .ok certificate => .ok (ofCertificate certificate)
  | .error (.rule .version) =>
      match Der.whole (Der.nested Der.Tag.sequence firstVersion) bytes with
      | some anchor => .ok anchor
      | none => .error .badEncoding
  | .error fault => .error fault

end TrustAnchor

end ProxyDial.Tls
