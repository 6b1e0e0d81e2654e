import ProxyDial.Crypto.Modular
import ProxyDial.Crypto.Sha2

set_option autoImplicit false

/-! RSA keys, and signatures made with them (RFC 8017). -/

namespace ProxyDial.Crypto.Rsa
open Text

/-- A public key. -/
structure PublicKey where
  modulus : Nat
  exponent : Nat
  deriving DecidableEq, Repr

/-- A private key with all that speeds its use up. -/
structure PrivateKey where
  modulus : Nat
  publicExponent : Nat
  privateExponent : Nat
  firstPrime : Nat
  secondPrime : Nat
  /-- The private exponent as it matters for each of the primes. -/
  firstExponent : Nat
  secondExponent : Nat
  /-- The inverse of the second prime modulo the first one. -/
  coefficient : Nat
  deriving DecidableEq, Repr

def bitLength (n : Nat) : Nat := if n = 0 then 0 else n.log2 + 1

/-- The parts of a description of a key, in their order: a version, and the numbers. -/
private def parts : Der.Reader (UInt8 × List Nat) :=
  Der.nested Der.Tag.sequence do
    let version ← Der.smallNatural
    let numbers ← (List.range 8).mapM fun _ => Der.toNat <$> Der.natural
    return (version, numbers)

namespace PrivateKey

def toPublic (key : PrivateKey) : PublicKey := ⟨key.modulus, key.publicExponent⟩

/-- Whether a prime is half as long as the modulus, and an exponent fits it. -/
private def isHalf (modulus prime exponent : Nat) : Bool :=
  let half := (bitLength modulus + 1) / 2
  prime % 2 = 1 && bitLength prime = half && half % 512 = 0 && exponent % 2 = 1 && exponent < prime

/-- Whether the key is strong enough and its parts fit together, as far as that is quickly told. -/
def isSound (key : PrivateKey) : Bool :=
  let bits := bitLength key.modulus
  key.modulus % 2 = 1 && 2048 ≤ (bits + 7) / 8 * 8 && bits ≤ 4096 &&
    key.publicExponent % 2 = 1 && 65537 ≤ key.publicExponent && key.publicExponent < Nat.pow 2 33 &&
    isHalf key.modulus key.firstPrime key.firstExponent &&
    isHalf key.modulus key.secondPrime key.secondExponent &&
    key.firstPrime * key.secondPrime % key.modulus = 0 &&
    key.privateExponent % 2 = 1 && key.privateExponent < key.modulus &&
    (bits + 1) / 2 < bitLength key.privateExponent &&
    key.coefficient < key.firstPrime &&
    key.coefficient * key.secondPrime % key.firstPrime = 1

/-- The sound key that all of the bytes describe. -/
def ofBytes? (bytes : Bytes) : Option PrivateKey :=
  match Der.whole parts bytes with
  | some (0, [n, e, d, p, q, dp, dq, qi]) =>
      let key : PrivateKey := ⟨n, e, d, p, q, dp, dq, qi⟩
      if key.isSound then some key else none
  | _ => none

end PrivateKey

namespace PublicKey

/-- The description of the key. -/
def encode (key : PublicKey) : Bytes :=
  Der.encode Der.Tag.sequence (Der.encodeNatural key.modulus ++ Der.encodeNatural key.exponent)

private def numbers : Der.Reader PublicKey :=
  Der.nested Der.Tag.sequence do
    let modulus ← Der.natural
    return ⟨Der.toNat modulus, Der.toNat (← Der.natural)⟩

/-- The key that all of the bytes describe, where it is one that signatures are checked with. -/
def ofBytes? (bytes : Bytes) : Option PublicKey :=
  (Der.whole numbers bytes).filter fun key =>
    let bits := bitLength key.modulus
    key.modulus % 2 = 1 && 2048 ≤ (bits + 7) / 8 * 8 && bits ≤ 8192 && key.exponent % 2 = 1 &&
      3 ≤ key.exponent && key.exponent < Nat.pow 2 33

private def size (key : PublicKey) : Nat := (bitLength key.modulus + 7) / 8

/-- What a signature has been made from. -/
private def opened? (key : PublicKey) (signature : Bytes) : Option Bytes :=
  let number := Der.toNat signature
  if signature.length = key.size && 0 < number && number < key.modulus then
    some (Der.ofNat key.size (powMod number key.exponent key.modulus))
  else none

/-- What names a hash function in front of a digest. -/
private def digestMark (hash : Sha2) : Bytes :=
  let number : UInt8 := if hash.length = 32 then 1 else if hash.length = 48 then 2 else 3
  [0x60, 0x86, 0x48, 0x01, 0x65, 0x03, 0x04, 0x02, number]

/-- A digest with the name of its hash function. -/
private def digestInfo (hash : Sha2) (digest : Bytes) : Bytes :=
  Der.encode Der.Tag.sequence
    (Der.encode Der.Tag.sequence
        (Der.encode Der.Tag.objectId (digestMark hash) ++ Der.encode Der.Tag.null []) ++
      Der.encode Der.Tag.octetString digest)

/-- Whether a signature is the digest of the message behind fixed padding. -/
def verifies (key : PublicKey) (hash : Sha2) (message signature : Bytes) : Bool :=
  let info := digestInfo hash (hash.digest message)
  let padding := List.replicate (key.size - info.length - 3) 0xff
  key.opened? signature = some (0 :: 1 :: padding ++ 0 :: info)

/-- Bytes that are drawn from a seed. -/
private def mask (hash : Sha2) (seed : Bytes) (count : Nat) : Bytes :=
  ((List.range (count / hash.length + 1)).flatMap fun index =>
    hash.digest (seed ++ Der.ofNat 4 index)).take count

/-- Whether a signature is the digest of the message mixed with a salt as long as the digest. -/
def verifiesSalted (key : PublicKey) (hash : Sha2) (message signature : Bytes) : Bool :=
  match key.opened? signature with
  | none => false
  | some opened =>
      let bits := bitLength key.modulus - 1
      let textLength := (bits + 7) / 8
      let highBits := Nat.pow 2 (8 - (8 * textLength - bits))
      let text := opened.drop (key.size - textLength)
      let blockLength := textLength - hash.length - 1
      let masked := text.take blockLength
      let check := (text.drop blockLength).take hash.length
      let unmasked := masked.zipWith (· ^^^ ·) (mask hash check blockLength)
      let block := match unmasked with
        | [] => []
        | first :: rest => UInt8.ofNat (first.toNat % highBits) :: rest
      let front : Bytes := List.replicate (blockLength - hash.length - 1) 0 ++ [1]
      Der.toNat opened < Nat.pow 2 bits && text.getLast? = some 0xbc && front.isPrefixOf block &&
        hash.digest (List.replicate 8 0 ++ hash.digest message ++ block.drop front.length) = check

end PublicKey

end ProxyDial.Crypto.Rsa
