set_option autoImplicit false

/-! The shortest decimal number that reads back as a given binary one, and its text. -/

namespace ProxyDial

/-- The number `digits * 10 ^ exponent`. -/
structure Decimal where
  digits : Nat
  exponent : Int
  deriving DecidableEq, Repr

namespace Decimal

/-- The fraction `numerator / denominator`. -/
structure Ratio where
  numerator : Nat
  denominator : Nat
  deriving Repr

namespace Ratio

/-- The number `mantissa * 2 ^ exponent`. -/
def ofBinary (mantissa : Nat) (exponent : Int) : Ratio :=
  ⟨mantissa * Nat.pow 2 exponent.toNat, Nat.pow 2 (-exponent).toNat⟩

/-- The ratio divided by `10 ^ exponent`. -/
def shifted (ratio : Ratio) (exponent : Int) : Ratio :=
  ⟨ratio.numerator * Nat.pow 10 (-exponent).toNat, ratio.denominator * Nat.pow 10 exponent.toNat⟩

/-- The greatest `e` with `10 ^ e` not above a ratio other than zero. -/
def leadingExponent (ratio : Ratio) : Int :=
  if ratio.denominator ≤ ratio.numerator then
    ((Nat.toDigits 10 (ratio.numerator / ratio.denominator)).length : Int) - 1
  else
    -((Nat.toDigits 10 ((ratio.denominator - 1) / ratio.numerator)).length : Int)

end Ratio

/-- The numbers that a binary number stands for when it is read: everything between two bounds. -/
structure Interval where
  value : Ratio
  low : Ratio
  high : Ratio
  closed : Bool

namespace Interval

/-- The numbers nearest to `mantissa * 2 ^ exponent`. Below the least mantissa of an exponent the
neighbour is only half as far away. -/
def ofBinary (mantissa : Nat) (exponent : Int) (isLeast : Bool) : Interval :=
  { value := .ofBinary mantissa exponent
    low := .ofBinary (4 * mantissa - if isLeast then 1 else 2) (exponent - 2)
    high := .ofBinary (4 * mantissa + 2) (exponent - 2)
    closed := mantissa % 2 = 0 }

/-- Whether the interval holds `digits * 10 ^ exponent`. -/
def holds (interval : Interval) (digits : Nat) (exponent : Int) : Bool :=
  let low := interval.low.shifted exponent
  let high := interval.high.shifted exponent
  let above := digits * low.denominator
  let below := digits * high.denominator
  if interval.closed then low.numerator ≤ above && below ≤ high.numerator
  else low.numerator < above && below < high.numerator

/-- The member of the interval among the two multiples of `10 ^ exponent` around its value; of two
members the nearer one, and the even one where both are equally near. -/
def onGrid? (interval : Interval) (exponent : Int) : Option Decimal :=
  let scaled := interval.value.shifted exponent
  let floor := scaled.numerator / scaled.denominator
  let rest := 2 * (scaled.numerator % scaled.denominator)
  let upper := rest > scaled.denominator || (rest = scaled.denominator && floor % 2 = 1)
  match interval.holds floor exponent, interval.holds (floor + 1) exponent with
  | true, true => some ⟨if upper then floor + 1 else floor, exponent⟩
  | true, false => some ⟨floor, exponent⟩
  | false, true => some ⟨floor + 1, exponent⟩
  | false, false => none

/-- The member with the fewest digits. Seventeen are always enough. -/
def shortest (interval : Interval) : Decimal :=
  let leading := interval.value.leadingExponent
  ((List.range 17).findSome? fun count => interval.onGrid? (leading - (count : Nat))).getD
    ⟨0, 0⟩

end Interval

/-- The digits, and the exponent of the first of them. -/
def scientific (number : Decimal) : List Char × Int :=
  let digits := Nat.toDigits 10 number.digits
  let kept := (digits.reverse.dropWhile (· = '0')).reverse
  (kept, number.exponent + digits.length - 1)

/-- A number is written in full where its first digit stands for `10 ^ e` with `e` from -5 to 15;
else with an exponent. -/
def text (number : Decimal) : String :=
  let (digits, leading) := scientific number
  if number.digits = 0 then "0.0"
  else if 0 ≤ leading && leading ≤ 15 then
    let count := leading.toNat + 1
    let whole := digits.take count ++ List.replicate (count - digits.length) '0'
    let fraction := digits.drop count
    String.ofList (whole ++ '.' :: if fraction.isEmpty then ['0'] else fraction)
  else if -5 ≤ leading && leading < 0 then
    String.ofList ('0' :: '.' :: List.replicate ((-leading).toNat - 1) '0' ++ digits)
  else
    let mantissa := digits.take 1 ++ if digits.length > 1 then '.' :: digits.drop 1 else []
    let sign := if leading < 0 then "-" else "+"
    String.ofList mantissa ++ "e" ++ sign ++ toString leading.natAbs

/-- The text of a finite binary number of 64 bits. -/
def textOfFloat (number : Float) : String :=
  let bits : Nat := number.toBits.toNat
  let fraction : Nat := bits % Nat.pow 2 52
  let biased : Nat := bits / Nat.pow 2 52 % Nat.pow 2 11
  let magnitude :=
    if biased = 0 then
      if fraction = 0 then ⟨0, 0⟩ else (Interval.ofBinary fraction (-1074) false).shortest
    else
      (Interval.ofBinary (fraction + Nat.pow 2 52) ((biased : Int) - 1075)
        (fraction = 0 && biased > 1)).shortest
  (if bits < Nat.pow 2 63 then "" else "-") ++ text magnitude

end Decimal

end ProxyDial
