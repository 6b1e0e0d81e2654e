import ProxyDial.Tls.Certificate
import ProxyDial.Tls.Key

set_option autoImplicit false

/-! Signatures of certificates: which algorithms are accepted, and whether a signature has been made
with the private key that belongs to a public one. -/

namespace ProxyDial.Tls
open Text Crypto

/-- How a signature is made. -/
inductive SignatureScheme
  | rsa (hash : Sha2)
  /-- RSA with a salt. -/
  | rsaSalted (hash : Sha2)
  | elliptic (hash : Sha2)
  | ed25519

namespace SignatureScheme

private def hashOf? (number : UInt8) : Option Sha2 :=
  if number = 1 then some .sha256
  else if number = 2 then some .sha384
  else if number = 3 then some .sha512
  else none

private def hashId (number : UInt8) : Bytes :=
  Der.encode Der.Tag.sequence
    (ObjectId.encode [0x60, 0x86, 0x48, 0x01, 0x65, 0x03, 0x04, 0x02, number] ++
      Der.encode Der.Tag.null [])

/-- The parameters of a salted signature: a hash, the mask that it makes, and a salt as long as it.
-/
private def saltParameters (number : UInt8) (length : Nat) : Bytes :=
  let mask := Der.encode Der.Tag.sequence
    (ObjectId.encode [0x2a, 0x86, 0x48, 0x86, 0xf7, 0x0d, 0x01, 0x01, 0x08] ++ hashId number)
  Der.encode Der.Tag.sequence
    (Der.encode (Der.Tag.wrapped 0) (hashId number) ++ Der.encode (Der.Tag.wrapped 1) mask ++
      Der.encode (Der.Tag.wrapped 2) (Der.encodeNatural length))

/-- The names of all schemes, as they stand in certificates. -/
private def names : List (Bytes × SignatureScheme) :=
  let rsa (number : UInt8) : Bytes :=
    ObjectId.encode [0x2a, 0x86, 0x48, 0x86, 0xf7, 0x0d, 0x01, 0x01, number]
  let elliptic (number : UInt8) : Bytes :=
    ObjectId.encode [0x2a, 0x86, 0x48, 0xce, 0x3d, 0x04, 0x03, number]
  (ObjectId.encode ObjectId.ed25519, ed25519) ::
    ([1, 2, 3] : List UInt8).flatMap fun number =>
      match hashOf? number with
      | none => []
      | some hash =>
          let plain := [(rsa (10 + number), SignatureScheme.rsa hash),
            (rsa (10 + number) ++ Der.encode Der.Tag.null [], .rsa hash),
            (rsa 10 ++ saltParameters number hash.length, .rsaSalted hash)]
          if number = 3 then plain else (elliptic (1 + number), .elliptic hash) :: plain

def ofName? (name : Bytes) : Option SignatureScheme :=
  (names.find? fun entry => entry.1 = name).map (·.2)

end SignatureScheme

/-- The name of the algorithm of a key, and the key. -/
private def keyParts : Der.Reader (Bytes × Bytes) := do
  let algorithm ← Der.expect Der.Tag.sequence
  return (algorithm, ← Der.wholeBits Der.Tag.bitString)

/-- Whether a key makes signatures in a scheme; then, whether it has made this one. -/
private def SignatureScheme.verifies? (scheme : SignatureScheme)
    (algorithm key message signature : Bytes) : Option Bool :=
  match scheme with
  | rsa hash =>
      if algorithm = KeyAlgorithm.rsa.encode then
        some ((Rsa.PublicKey.ofBytes? key).any (·.verifies hash message signature))
      else none
  | rsaSalted hash =>
      if algorithm = KeyAlgorithm.rsa.encode then
        some ((Rsa.PublicKey.ofBytes? key).any (·.verifiesSalted hash message signature))
      else none
  | elliptic hash =>
      let known := [KeyCurve.p256, .p384].find? fun curve =>
        algorithm = (KeyAlgorithm.elliptic curve).encode
      known.map (·.curve.verifies key (hash.digest message) signature)
  | ed25519 =>
      if algorithm = KeyAlgorithm.ed25519.encode then some (Edwards.verifies key message signature)
      else none

/-- Checks that a certificate has been signed with the private key that belongs to a public one. -/
def Certificate.checkSignature (certificate : Certificate) (issuerKey : Bytes) :
    Except CertificateFault Unit :=
  match SignatureScheme.ofName? certificate.signatureAlgorithm, Der.whole keyParts issuerKey with
  | none, _ => .error .unsupportedSignature
  | some _, none => .error .badEncoding
  | some scheme, some (algorithm, key) =>
      match scheme.verifies? algorithm key certificate.signed certificate.signature with
      | none => .error .unsupportedSignature
      | some true => .ok ()
      | some false => .error .badSignature

end ProxyDial.Tls
