import ProxyDial.Text.Record

set_option autoImplicit false

/-! What can be wrong with a certificate or with a TLS handshake. -/

namespace ProxyDial.Tls
open Text

/-- Rules of certificates that are told by their names only. -/
inductive CertificateRule
  | caUsedAsEndEntity
  | endEntityUsedAsCa
  /-- An extension is there twice. -/
  | extensionValueInvalid
  | networkMask
  | malformedName
  | malformedConstraint
  /-- A chain is longer than anybody needs. -/
  | pathDepth
  | nameConstraint
  /-- More certificates stand below one than it allows. -/
  | pathLength
  /-- The two places that name the algorithm of the signature differ. -/
  | signatureAlgorithms
  | version
  | criticalExtension
  deriving DecidableEq, Repr

namespace CertificateRule

def name : CertificateRule → String
  | caUsedAsEndEntity => "CaUsedAsEndEntity"
  | endEntityUsedAsCa => "EndEntityUsedAsCa"
  | extensionValueInvalid => "ExtensionValueInvalid"
  | networkMask => "InvalidNetworkMaskConstraint"
  | malformedName => "MalformedDnsIdentifier"
  | malformedConstraint => "MalformedNameConstraint"
  | pathDepth => "MaximumPathDepthExceeded"
  | nameConstraint => "NameConstraintViolation"
  | pathLength => "PathLenConstraintViolated"
  | signatureAlgorithms => "SignatureAlgorithmMismatch"
  | version => "UnsupportedCertVersion"
  | criticalExtension => "UnsupportedCriticalExtension"

/-- How much the break of a rule says about a chain. -/
def weight : CertificateRule → Nat
  | signatureAlgorithms => 250
  | nameConstraint => 230
  | pathLength => 220
  | caUsedAsEndEntity | endEntityUsedAsCa => 210
  | networkMask => 180
  | criticalExtension | version => 130
  | malformedName => 60
  | malformedConstraint => 50
  | extensionValueInvalid => 30
  | pathDepth => 0

end CertificateRule

/-- Why a certificate is not accepted. -/
inductive CertificateFault
  | badEncoding
  | badSignature
  /-- The certificate is used after its last second. -/
  | expired (now last : Nat)
  /-- The last second comes before the first one. -/
  | neverValid
  /-- The certificate is used before its first second. -/
  | notYetValid (now first : Nat)
  | unknownIssuer
  | unsupportedSignature
  /-- The names that the certificate has been issued for do not cover the expected one. -/
  | wrongName (expected : String) (presented : List String)
  /-- The certificate must not be used for what it is used for. -/
  | wrongPurpose (required : String) (presented : List String)
  | rule (rule : CertificateRule)
  deriving DecidableEq, Repr

namespace CertificateFault

/-- The items as in `a, b or c`. -/
private def alternatives : List String → String
  | [] => ""
  | [one] => one
  | [one, last] => one ++ " or " ++ last
  | one :: rest => one ++ ", " ++ alternatives rest

def message : CertificateFault → String
  | badEncoding => "BadEncoding"
  | badSignature => "BadSignature"
  | expired now last =>
      "certificate expired: verification time " ++ toString now ++
        " (UNIX), but certificate is not valid after " ++ toString last ++ " (" ++
        toString (now - last) ++ " seconds ago)"
  | neverValid => "Expired"
  | notYetValid now first =>
      "certificate not valid yet: verification time " ++ toString now ++
        " (UNIX), but certificate is not valid before " ++ toString first ++ " (" ++
        toString (first - now) ++ " seconds in future)"
  | unknownIssuer => "UnknownIssuer"
  | unsupportedSignature => "UnsupportedSignatureAlgorithm"
  | wrongName expected presented =>
      "certificate not valid for name " ++ quoted expected ++ "; certificate " ++
        if presented.isEmpty then
          "is not valid for any names (according to its subjectAltName extension)"
        else "is only valid for " ++ alternatives presented
  | wrongPurpose required presented =>
      "certificate does not allow extended key usage for " ++ required ++ ", allows " ++
        ", ".intercalate presented
  | rule broken => "Other(OtherError(" ++ broken.name ++ "))"

/-- How much a fault says about a chain. Of several faults of one chain the weightiest is told. -/
def weight : CertificateFault → Nat
  | expired _ _ | notYetValid _ _ => 290
  | wrongName _ _ => 280
  | badSignature => 260
  | wrongPurpose _ _ => 240
  | neverValid => 190
  | unsupportedSignature => 150
  | rule broken => broken.weight
  | badEncoding => 10
  | unknownIssuer => 0

end CertificateFault

/-- Why a handshake fails. -/
inductive Fault
  | certificate (fault : CertificateFault)
  /-- The peer ends the handshake and says why. -/
  | alert (name : String)
  /-- The peer sends something that is no message of the protocol. -/
  | corruptMessage (name : String)
  /-- The peer sends a record of another kind than a handshake. -/
  | unexpected (kind : String)
  /-- The certificate and the private key of a client do not belong together. -/
  | inconsistentKeys
  /-- A local part is not fit for its use. -/
  | general (detail : String)
  deriving DecidableEq, Repr

namespace Fault

def message : Fault → String
  | certificate fault => "invalid peer certificate: " ++ fault.message
  | alert name => "received fatal alert: " ++ name
  | corruptMessage name => "received corrupt message of type " ++ name
  | unexpected kind => "received unexpected message: got " ++ kind ++ " when expecting Handshake"
  | inconsistentKeys => "keys may not be consistent: KeyMismatch"
  | general detail => "unexpected error: " ++ detail

end Fault

end ProxyDial.Tls
