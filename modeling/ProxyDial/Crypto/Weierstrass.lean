import ProxyDial.Crypto.Modular
import ProxyDial.Der

set_option autoImplicit false

/-! Elliptic curves with the equation `y² = x³ - 3x + b` over a prime field, and signatures made
with them (FIPS 186-4). -/

namespace ProxyDial.Crypto
open Text

structure WeierstrassCurve where
  prime : Nat
  b : Nat
  /-- How often the base point is added up until nothing is left. -/
  order : Nat
  baseX : Nat
  baseY : Nat
  /-- How many bytes a coordinate takes. -/
  size : Nat
  deriving DecidableEq, Repr

/-- The point `(x / z², y / z³)`; for `z = 0` the point at infinity. -/
structure JacobianPoint where
  x : Nat
  y : Nat
  z : Nat

namespace WeierstrassCurve

def p256 : WeierstrassCurve where
  prime := 0xffffffff00000001000000000000000000000000ffffffffffffffffffffffff
  b := 0x5ac635d8aa3a93e7b3ebbd55769886bc651d06b0cc53b0f63bce3c3e27d2604b
  order := 0xffffffff00000000ffffffffffffffffbce6faada7179e84f3b9cac2fc632551
  baseX := 0x6b17d1f2e12c4247f8bce6e563a440f277037d812deb33a0f4a13945d898c296
  baseY := 0x4fe342e2fe1a7f9b8ee7eb4a7c0f9e162bce33576b315ececbb6406837bf51f5
  size := 32

def p384 : WeierstrassCurve where
  prime := Nat.pow 2 384 - Nat.pow 2 128 - Nat.pow 2 96 + Nat.pow 2 32 - 1
  b := 0xb3312fa7e23ee7e4988e056be3f82d19181d9c6efe8141120314088f5013875ac656398d8a2ed19d2a85c8edd3ec2aef
  order := 0xffffffffffffffffffffffffffffffffffffffffffffffffc7634d81f4372ddf581a0db248b0a77aecec196accc52973
  baseX := 0xaa87ca22be8b05378eb1c71ef320ad746e1d3b628ba79b9859f741e082542a385502f25dbf55296c3a545e3872760ab7
  baseY := 0x3617de4a96262c6f5d9e98bf9292dc29f8f41dbd289a147ce9da3113b5f0b8c00a60b1ce1d7e819d7a431d7c90ea0e5f
  size := 48

private def infinity : JacobianPoint := ⟨1, 1, 0⟩

def base (curve : WeierstrassCurve) : JacobianPoint := ⟨curve.baseX, curve.baseY, 1⟩

private def times (curve : WeierstrassCurve) (a b : Nat) : Nat := a * b % curve.prime

private def minus (curve : WeierstrassCurve) (a b : Nat) : Nat := subMod a b curve.prime

private def double (curve : WeierstrassCurve) (point : JacobianPoint) : JacobianPoint :=
  let zz := curve.times point.z point.z
  let yy := curve.times point.y point.y
  let xyy := curve.times point.x yy
  let slope := curve.times 3 (curve.times (curve.minus point.x zz) (point.x + zz))
  let x := curve.minus (curve.times slope slope) (curve.times 8 xyy)
  let y := curve.minus (curve.times slope (curve.minus (curve.times 4 xyy) x))
    (curve.times 8 (curve.times yy yy))
  ⟨x, y, curve.times 2 (curve.times point.y point.z)⟩

def add (curve : WeierstrassCurve) (left right : JacobianPoint) : JacobianPoint :=
  if left.z = 0 then right
  else if right.z = 0 then left
  else
    let zzLeft := curve.times left.z left.z
    let zzRight := curve.times right.z right.z
    let xLeft := curve.times left.x zzRight
    let xRight := curve.times right.x zzLeft
    let yLeft := curve.times left.y (curve.times right.z zzRight)
    let yRight := curve.times right.y (curve.times left.z zzLeft)
    if xLeft = xRight then
      if yLeft = yRight then curve.double left else infinity
    else
      let run := curve.minus xRight xLeft
      let rise := curve.minus yRight yLeft
      let run2 := curve.times run run
      let run3 := curve.times run run2
      let v := curve.times xLeft run2
      let x := curve.minus (curve.minus (curve.times rise rise) run3) (curve.times 2 v)
      let y := curve.minus (curve.times rise (curve.minus v x)) (curve.times yLeft run3)
      ⟨x, y, curve.times run (curve.times left.z right.z)⟩

/-- The point added up so many times. -/
def multiply (curve : WeierstrassCurve) (count : Nat) (point : JacobianPoint) : JacobianPoint :=
  (List.range (count.log2 + 1)).reverse.foldl
    (fun sum index =>
      let doubled := curve.double sum
      if count.testBit index then curve.add doubled point else doubled)
    infinity

/-- The coordinates of a point other than the one at infinity. -/
def affine? (curve : WeierstrassCurve) (point : JacobianPoint) : Option (Nat × Nat) :=
  if point.z = 0 then none
  else
    let inverse := inverseMod point.z curve.prime
    let inverse2 := curve.times inverse inverse
    some (curve.times point.x inverse2, curve.times point.y (curve.times inverse inverse2))

private def isOn (curve : WeierstrassCurve) (x y : Nat) : Bool :=
  x < curve.prime && y < curve.prime &&
    curve.times y y =
      (curve.minus (curve.times x (curve.times x x)) (curve.times 3 x) + curve.b) % curve.prime

/-- A point as bytes: both coordinates behind a 4. -/
def encode (curve : WeierstrassCurve) (x y : Nat) : Bytes :=
  4 :: Der.ofNat curve.size x ++ Der.ofNat curve.size y

/-- The point that bytes encode. -/
def decode? (curve : WeierstrassCurve) : Bytes → Option JacobianPoint
  | [] => none
  | form :: bytes =>
      let x := Der.toNat (bytes.take curve.size)
      let y := Der.toNat (bytes.drop curve.size)
      if form = 4 && bytes.length = 2 * curve.size && curve.isOn x y then some ⟨x, y, 1⟩ else none

/-- The public key that belongs to the bytes of a private one. -/
def publicKey? (curve : WeierstrassCurve) (secret : Bytes) : Option Bytes :=
  let number := Der.toNat secret
  if secret.length = curve.size && 0 < number && number < curve.order then
    (curve.affine? (curve.multiply number curve.base)).map fun point =>
      curve.encode point.1 point.2
  else none

/-- The two numbers of a signature. -/
private def signatureNumbers : Der.Reader (Nat × Nat) :=
  Der.nested Der.Tag.sequence do
    let r ← Der.natural
    return (Der.toNat r, Der.toNat (← Der.natural))

/-- Whether a signature of a digest has been made with the private key that belongs to a public one.
-/
def verifies (curve : WeierstrassCurve) (publicKey digest signature : Bytes) : Bool :=
  match curve.decode? publicKey, Der.whole signatureNumbers signature with
  | some key, some (r, s) =>
      let order := curve.order
      if 0 < r && r < order && 0 < s && s < order then
        let e := Der.toNat (digest.take curve.size) % order
        let inverse := inverseMod s order
        let sum := curve.add (curve.multiply (e * inverse % order) curve.base)
          (curve.multiply (r * inverse % order) key)
        (curve.affine? sum).any fun point => point.1 % order = r
      else false
  | _, _ => false

end WeierstrassCurve

end ProxyDial.Crypto
