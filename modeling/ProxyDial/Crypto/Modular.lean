set_option autoImplicit false

/-! Arithmetic modulo a number. -/

namespace ProxyDial.Crypto

/-- A power modulo a number, by the binary digits of the exponent from the high end on. -/
def powMod (base exponent modulus : Nat) : Nat :=
  (List.range (exponent.log2 + 1)).reverse.foldl
    (fun power index =>
      let square := power * power % modulus
      if exponent.testBit index then square * base % modulus else square)
    (1 % modulus)

/-- A difference modulo a number; `b` is below the modulus. -/
def subMod (a b modulus : Nat) : Nat := (a + (modulus - b)) % modulus

/-- The inverse modulo a prime number; zero for zero. -/
def inverseMod (a prime : Nat) : Nat := powMod a (prime - 2) prime

end ProxyDial.Crypto
