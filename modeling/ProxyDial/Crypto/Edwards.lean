import ProxyDial.Crypto.Modular
import ProxyDial.Crypto.Sha2

set_option autoImplicit false

/-! The curve `-x² + y² = 1 + d x² y²` over the field of `2^255 - 19` elements, and signatures made
with it (RFC 8032). -/

namespace ProxyDial.Crypto.Edwards
open Text

def prime : Nat := Nat.pow 2 255 - 19

/-- How often the base point is added up until nothing is left. -/
def order : Nat := Nat.pow 2 252 + 27742317777372353535851937790883648493

def d : Nat := subMod 0 (121665 * inverseMod 121666 prime % prime) prime

/-- The point `(x / z, y / z)`, where `t z = x y`. -/
structure Point where
  x : Nat
  y : Nat
  z : Nat
  t : Nat

private def times (a b : Nat) : Nat := a * b % prime

private def minus (a b : Nat) : Nat := subMod a b prime

/-- The sum of any two points. -/
def add (left right : Point) : Point :=
  let a := times (minus left.y left.x) (minus right.y right.x)
  let b := times (left.y + left.x) (right.y + right.x)
  let c := times (times 2 (times left.t right.t)) d
  let g := times 2 (times left.z right.z)
  let e := minus b a
  let f := minus g c
  let h := (b + a) % prime
  ⟨times e f, times (g + c) h, times f (g + c), times e h⟩

private def neutral : Point := ⟨0, 1, 1, 0⟩

/-- The point added up so many times. -/
def multiply (count : Nat) (point : Point) : Point :=
  (List.range (count.log2 + 1)).reverse.foldl
    (fun sum index =>
      let doubled := add sum sum
      if count.testBit index then add doubled point else doubled)
    neutral

/-- The number that bytes write, low byte first. -/
def littleEndian (bytes : Bytes) : Nat := Der.toNat bytes.reverse

private def toLittleEndian (number : Nat) : Bytes := (Der.ofNat 32 number).reverse

/-- The point with a given `y`, and an `x` that is odd or even as asked for. -/
def withY? (y : Nat) (odd : Bool) : Option Point :=
  let yy := times y y
  let xx := times (minus yy 1) (inverseMod (times d yy + 1) prime)
  let root := powMod xx ((prime + 3) / 8) prime
  let x := if times root root = xx then root else times root (powMod 2 ((prime - 1) / 4) prime)
  if y ≥ prime || times x x ≠ xx || (x = 0 && odd) then none
  else
    let x := if (x % 2 = 1) = odd then x else prime - x
    some ⟨x, y, 1, times x y⟩

/-- The base point: its `y` is four fifths, and its `x` is even. -/
def base : Point := (withY? (times 4 (inverseMod 5 prime)) false).getD neutral

/-- A point as bytes: `y`, low byte first, and in the highest bit whether `x` is odd. -/
def encode (point : Point) : Bytes :=
  let inverse := inverseMod point.z prime
  toLittleEndian (times point.y inverse + times point.x inverse % 2 * Nat.pow 2 255)

def decode? (bytes : Bytes) : Option Point :=
  let number := littleEndian bytes
  if bytes.length = 32 then withY? (number % Nat.pow 2 255) (number.testBit 255) else none

/-- The public key that belongs to the seed of a private one. -/
def publicKey? (seed : Bytes) : Option Bytes :=
  if seed.length = 32 then
    let number := littleEndian ((Sha2.sha512.digest seed).take 32)
    let secret := number % Nat.pow 2 254 / 8 * 8 + Nat.pow 2 254
    some (encode (multiply secret base))
  else none

/-- Whether a signature of a message has been made with the private key that belongs to a public
one. -/
def verifies (publicKey message signature : Bytes) : Bool :=
  match decode? publicKey with
  | none => false
  | some key =>
      let s := littleEndian (signature.drop 32)
      let challenge :=
        littleEndian (Sha2.sha512.digest (signature.take 32 ++ publicKey ++ message)) % order
      let opposite : Point := ⟨minus 0 key.x, key.y, key.z, minus 0 key.t⟩
      signature.length = 64 && s < order &&
        encode (add (multiply s base) (multiply challenge opposite)) = signature.take 32

end ProxyDial.Crypto.Edwards
