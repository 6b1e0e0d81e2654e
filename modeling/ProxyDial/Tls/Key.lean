import ProxyDial.Crypto.Edwards
import ProxyDial.Crypto.Rsa
import ProxyDial.Crypto.Weierstrass
import ProxyDial.Text.Pem

set_option autoImplicit false

/-! Keys of certificates: the three kinds of public keys, how one is described, and how the private
key that belongs to one is read. -/

namespace ProxyDial.Tls
open Text Crypto

namespace ObjectId

def rsaEncryption : Bytes := [0x2a, 0x86, 0x48, 0x86, 0xf7, 0x0d, 0x01, 0x01, 0x01]
def ellipticCurve : Bytes := [0x2a, 0x86, 0x48, 0xce, 0x3d, 0x02, 0x01]
def curveP256 : Bytes := [0x2a, 0x86, 0x48, 0xce, 0x3d, 0x03, 0x01, 0x07]
def curveP384 : Bytes := [0x2b, 0x81, 0x04, 0x00, 0x22]
def ed25519 : Bytes := [0x2b, 0x65, 0x70]

/-- An identifier as a value. -/
def encode (id : Bytes) : Bytes := Der.encode Der.Tag.objectId id

end ObjectId

/-- The curves on which keys may lie. -/
inductive KeyCurve
  | p256
  | p384
  deriving DecidableEq, Repr

namespace KeyCurve

def curve : KeyCurve → WeierstrassCurve
  | p256 => .p256
  | p384 => .p384

def id : KeyCurve → Bytes
  | p256 => ObjectId.curveP256
  | p384 => ObjectId.curveP384

end KeyCurve

/-- The kinds of keys, as they are named where a key is described. -/
inductive KeyAlgorithm
  | rsa
  | elliptic (curve : KeyCurve)
  | ed25519
  deriving DecidableEq, Repr

/-- The name of a kind of keys, with its parameters. -/
def KeyAlgorithm.encode : KeyAlgorithm → Bytes
  | rsa => ObjectId.encode ObjectId.rsaEncryption ++ Der.encode Der.Tag.null []
  | elliptic curve => ObjectId.encode ObjectId.ellipticCurve ++ ObjectId.encode curve.id
  | ed25519 => ObjectId.encode ObjectId.ed25519

structure PublicKey where
  algorithm : KeyAlgorithm
  /-- The key itself, as its algorithm writes it. -/
  key : Bytes
  deriving DecidableEq, Repr

/-- The whole description of a public key. -/
def PublicKey.info (key : PublicKey) : Bytes :=
  Der.encode Der.Tag.sequence
    (Der.encode Der.Tag.sequence key.algorithm.encode ++ Der.encodeBits key.key)

/-- How a text holds a private key. -/
inductive KeyForm
  /-- An RSA key on its own. -/
  | rsa
  /-- A key on a curve on its own. -/
  | elliptic
  /-- A key of any kind, with the name of its kind. -/
  | named
  deriving DecidableEq, Repr

namespace KeyForm

def ofLabel? : Pem.Label → Option KeyForm
  | .rsaPrivateKey => some rsa
  | .ecPrivateKey => some elliptic
  | .privateKey => some named
  | _ => none

end KeyForm

namespace PrivateKey

/-- A key that comes with the name of its kind: the key, and its public key where that is told. The
public key may be told from the second version of this form on. -/
private def unwrap (algorithm : KeyAlgorithm) : Der.Reader (Bytes × Option Bytes) :=
  Der.nested Der.Tag.sequence do
    let version ← Der.smallNatural
    guard ((← Der.expect Der.Tag.sequence) = algorithm.encode)
    guard (version = 0 || (version = 1 && algorithm = .ed25519))
    let key ← Der.expect Der.Tag.octetString
    discard <| Der.optional (Der.Tag.wrapped 0)
    if version = 0 then return (key, none)
    else if ← Der.isNext (Der.Tag.wrapped 1) then
      return (key, some (← Der.nested (Der.Tag.wrapped 1) (Der.wholeBits Der.Tag.bitString)))
    else return (key, some (← Der.wholeBits (Der.Tag.part 1)))

/-- A key on a curve: its bytes, and its public key. Where the curve is told, it is the given one.
-/
private def onCurve (curve : KeyCurve) : Der.Reader (Bytes × Bytes) :=
  Der.nested Der.Tag.sequence do
    guard ((← Der.smallNatural) = 1)
    let secret ← Der.expect Der.Tag.octetString
    let told ← Der.optional (Der.Tag.wrapped 0)
    guard (told.all (· = ObjectId.encode curve.id))
    let shown ← Der.nested (Der.Tag.wrapped 1) (Der.wholeBits Der.Tag.bitString)
    return (secret, shown)

private def rsaPublic? (bytes : Bytes) : Option PublicKey :=
  (Rsa.PrivateKey.ofBytes? bytes).map fun key => ⟨.rsa, key.toPublic.encode⟩

/-- The public key that belongs to a private one; the key must tell it rightly. -/
private def ellipticPublic? (curve : KeyCurve) (bytes : Bytes) : Option PublicKey := do
  let (secret, shown) ← Der.whole (onCurve curve) bytes
  let point ← curve.curve.publicKey? secret
  if point = shown then return ⟨.elliptic curve, point⟩ else none

/-- The same for a key that holds nothing but a seed; it may tell its public key. -/
private def edwardsPublic? (bytes : Bytes) (shown : Option Bytes) : Option PublicKey := do
  let seed ← Der.whole (Der.expect Der.Tag.octetString) bytes
  let point ← Edwards.publicKey? seed
  if shown.all (· = point) then return ⟨.ed25519, point⟩ else none

private def namedPublic? (bytes : Bytes) (algorithm : KeyAlgorithm) : Option PublicKey := do
  let (key, shown) ← Der.whole (unwrap algorithm) bytes
  match algorithm with
  | .rsa => rsaPublic? key
  | .elliptic curve => ellipticPublic? curve key
  | .ed25519 => edwardsPublic? key shown

/-- The public key that belongs to the private key in a text; none for a key of no known kind and
for one whose parts do not fit together. -/
def publicKey? (form : KeyForm) (bytes : Bytes) : Option PublicKey :=
  match form with
  | .rsa => rsaPublic? bytes
  | .elliptic => [KeyCurve.p256, .p384].findSome? (ellipticPublic? · bytes)
  | .named =>
      [KeyAlgorithm.rsa, .elliptic .p256, .elliptic .p384, .ed25519].findSome? (namedPublic? bytes)

end PrivateKey

end ProxyDial.Tls
