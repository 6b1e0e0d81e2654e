import ProxyDial.Decimal.Shortest
import ProxyDial.Json.Stop

set_option autoImplicit false

/-! Numbers of JSON texts. A number is read as an integer of 64 bits where it is one, else as a
binary fraction; a number that is skipped is checked for its form only. -/

namespace ProxyDial.Json
open Text

inductive Number
  | natural (value : Nat)
  /-- An integer below zero, by its distance from zero. -/
  | negative (distance : Nat)
  | fraction (value : Float)
  deriving Repr

/-- The bound of the integers that are held as such. -/
def wordBound : Nat := Nat.pow 2 64

/-- Digits taken into a number as long as it fits a word. -/
def takeDigits (value : Nat) : List Char → Nat × List Char
  | [] => (value, [])
  | c :: rest =>
      if isDigit c && 10 * value + digitValue c < wordBound then
        takeDigits (10 * value + digitValue c) rest
      else (value, c :: rest)

def startsWithDigit (text : List Char) : Bool := text.head?.any isDigit

def skipDigits (text : List Char) : List Char := text.dropWhile isDigit

def powerOfTen (exponent : Nat) : Float := Float.ofScientific 1 false exponent

def signed (positive : Bool) (value : Float) : Float := if positive then value else -value

/-- The value of `significand * 10 ^ exponent`, rounded after each of its steps; a step is a power
of ten up to the 308th. `steps` bounds their number. -/
def scale (text : List Char) : (steps : Nat) → Float → Int → Except Stop Float
  | 0, value, _ => .ok value
  | steps + 1, value, exponent =>
      if exponent.natAbs ≤ 308 then
        if 0 ≤ exponent then
          let scaled := value * powerOfTen exponent.natAbs
          if scaled.isInf then .error (.after .numberOutOfRange text) else .ok scaled
        else .ok (value / powerOfTen exponent.natAbs)
      else if value == 0.0 then .ok value
      else if 0 ≤ exponent then .error (.after .numberOutOfRange text)
      else scale text steps (value / powerOfTen 308) (exponent + 308)

def ofParts (positive : Bool) (significand : Nat) (exponent : Int) (text : List Char) :
    Except Stop (Number × List Char) := do
  let value ← scale text 8 significand.toUInt64.toFloat exponent
  return (.fraction (signed positive value), text)

/-- The bound of exponents; a number with a larger one is zero or out of range. -/
def exponentBound : Nat := Nat.pow 2 31

/-- The number whose significand has been read, at the letter in front of an exponent. -/
def readExponent (positive : Bool) (significand : Nat) (start : Int) (text : List Char) :
    Except Stop (Number × List Char) :=
  let (positiveExponent, text) := match text.drop 1 with
    | '+' :: rest => (true, rest)
    | '-' :: rest => (false, rest)
    | rest => (true, rest)
  if text.isEmpty then .error (.here .endInValue text)
  else if !startsWithDigit text then .error (.here .invalidNumber text)
  else
    let digits := text.takeWhile isDigit
    let fitting := (List.range (digits.length + 1)).foldl
      (fun best count => if decimalValue (digits.take count) < exponentBound then count else best) 0
    let exponent := decimalValue digits
    if fitting < digits.length then
      if significand ≠ 0 && positiveExponent then
        .error (.after .numberOutOfRange (text.drop (fitting + 1)))
      else .ok (.fraction (signed positive 0.0), skipDigits text)
    else
      let total := if positiveExponent then start + exponent else start - exponent
      let clamped := max (-(exponentBound : Int)) (min total (exponentBound - 1))
      ofParts positive significand clamped (skipDigits text)

def startsExponent (text : List Char) : Bool := text.head?.any fun c => c = 'e' || c = 'E'

def readAfterDigits (positive : Bool) (significand : Nat) (exponent : Int)
    (text : List Char) : Except Stop (Number × List Char) :=
  if startsExponent text then readExponent positive significand exponent text
  else ofParts positive significand exponent text

/-- The number whose integral part has been read, at its point. -/
def readFraction (positive : Bool) (significand : Nat) (exponent : Int) (text : List Char) :
    Except Stop (Number × List Char) :=
  let text := text.drop 1
  let (value, rest) := takeDigits significand text
  let taken := text.length - rest.length
  if startsWithDigit rest then
    readAfterDigits positive value (exponent - taken) (skipDigits rest)
  else if taken = 0 then
    .error (.here (if rest.isEmpty then .endInValue else .invalidNumber) rest)
  else readAfterDigits positive value (exponent - taken) rest

def readAfterInteger (positive : Bool) (significand : Nat) (exponent : Int)
    (text : List Char) : Except Stop (Number × List Char) :=
  if text.head? = some '.' then readFraction positive significand exponent text
  else readAfterDigits positive significand exponent text

def integer (positive : Bool) (significand : Nat) : Number :=
  if positive then .natural significand
  else if 0 < significand && significand ≤ Nat.pow 2 63 then .negative significand
  else .fraction (-significand.toUInt64.toFloat)

/-- The number behind its sign. -/
def readNumber (positive : Bool) (text : List Char) : Except Stop (Number × List Char) :=
  match text with
  | [] => .error (.here .endInValue [])
  | first :: rest =>
      if !isDigit first then .error (.here .invalidNumber (first :: rest))
      else if first = '0' && startsWithDigit rest then .error (.here .invalidNumber rest)
      else
        let (significand, rest) := if first = '0' then (0, rest) else takeDigits 0 (first :: rest)
        if startsWithDigit rest then
          readAfterInteger positive significand (rest.takeWhile isDigit).length (skipDigits rest)
        else if rest.head? = some '.' || startsExponent rest then
          readAfterInteger positive significand 0 rest
        else .ok (integer positive significand, rest)

def skipExponent (text : List Char) : Except Stop (List Char) :=
  let text := match text.drop 1 with
    | '+' :: rest | '-' :: rest => rest
    | rest => rest
  if startsWithDigit text then .ok (skipDigits text) else .error (.here .invalidNumber text)

def skipAfterInteger (text : List Char) : Except Stop (List Char) :=
  if text.head? = some '.' then
    let text := text.drop 1
    let rest := skipDigits text
    if !startsWithDigit text then .error (.here .invalidNumber text)
    else if startsExponent rest then skipExponent rest
    else .ok rest
  else if startsExponent text then skipExponent text
  else .ok text

/-- The text behind a number whose sign has been read. -/
def skipNumber (text : List Char) : Except Stop (List Char) :=
  match text with
  | [] => .error (.here .invalidNumber [])
  | first :: rest =>
      if !isDigit first then .error (.here .invalidNumber (first :: rest))
      else if first = '0' && startsWithDigit rest then .error (.here .invalidNumber rest)
      else skipAfterInteger (if first = '0' then rest else skipDigits rest)

end ProxyDial.Json
