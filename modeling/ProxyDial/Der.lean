import ProxyDial.Text.Bytes

set_option autoImplicit false

/-! Distinguished encoding of structured values: each is a tag, a length and a content. Lengths are
written in the shortest way, and none reaches `lengthLimit`. -/

namespace ProxyDial.Der
open Text

/-- Takes values from the front of bytes. -/
abbrev Reader := StateT Bytes Option

namespace Tag

def boolean : UInt8 := 0x01
def integer : UInt8 := 0x02
def bitString : UInt8 := 0x03
def octetString : UInt8 := 0x04
def null : UInt8 := 0x05
def objectId : UInt8 := 0x06
def utcTime : UInt8 := 0x17
def generalizedTime : UInt8 := 0x18
def sequence : UInt8 := 0x30

/-- A part that is told apart by its number, with a plain content. -/
def part (number : UInt8) : UInt8 := 0x80 + number

/-- A part that is told apart by its number, with values inside. -/
def wrapped (number : UInt8) : UInt8 := 0xa0 + number

end Tag

def lengthLimit : Nat := 65535

/-- The length at the front of bytes. -/
def readLength : Bytes → Option (Nat × Bytes)
  | 0x81 :: a :: rest => if a < 128 then none else some (a.toNat, rest)
  | 0x82 :: a :: b :: rest =>
      let length := a.toNat * 256 + b.toNat
      if length < 256 || length ≥ lengthLimit then none else some (length, rest)
  | a :: rest => if a < 128 then some (a.toNat, rest) else none
  | [] => none

/-- The value at the front: its tag and its content. Tags of more than one byte are not read. -/
def value : Reader (UInt8 × Bytes)
  | [] => none
  | tag :: rest =>
      if tag.toNat % 32 = 31 then none
      else match readLength rest with
        | none => none
        | some (length, rest) =>
            if rest.length < length then none
            else some ((tag, rest.take length), rest.drop length)

/-- The content of a value with the given tag. -/
def expect (tag : UInt8) : Reader Bytes := do
  let (found, content) ← value
  if found = tag then return content else failure

/-- Whether nothing is left. -/
def atEnd : Reader Bool := do return (← get).isEmpty

/-- Whether a value with the given tag comes next. -/
def isNext (tag : UInt8) : Reader Bool := do return (← get).head? = some tag

/-- The content of a value with the given tag, if one comes next. -/
def optional (tag : UInt8) : Reader (Option Bytes) := do
  if ← isNext tag then return some (← expect tag) else return none

/-- What a reader makes of all of the bytes. -/
def whole {α : Type} (reader : Reader α) (bytes : Bytes) : Option α :=
  match reader bytes with
  | some (result, []) => some result
  | _ => none

/-- What a reader makes of all of the content of a value with the given tag. -/
def nested {α : Type} (tag : UInt8) (reader : Reader α) : Reader α := do
  let content ← expect tag
  (whole reader content : Option α)

/-- The digits of a number that is not negative, from the high end on: no zero stands in front where
it is not needed to keep the number from being negative. -/
def natural : Reader Bytes := do
  match ← expect Tag.integer with
  | [] => failure
  | [digit] => if digit < 128 then return [digit] else failure
  | first :: second :: rest =>
      if first = 0 then if second ≥ 128 then return second :: rest else failure
      else if first < 128 then return first :: second :: rest
      else failure

/-- A number below 256. -/
def smallNatural : Reader UInt8 := do
  match ← natural with
  | [digit] => return digit
  | _ => failure

/-- A truth value that is left out when it is false. -/
def flag : Reader Bool := do
  match ← optional Tag.boolean with
  | none => return false
  | some [0xff] => return true
  | some [0x00] => return false
  | some _ => failure

/-- The bytes of a bit string that ends with a whole byte. -/
def wholeBits (tag : UInt8) : Reader Bytes := do
  match ← expect tag with
  | 0 :: bytes => return bytes
  | _ => failure

/-- The number that bytes write, high byte first. -/
def toNat (bytes : Bytes) : Nat := bytes.foldl (fun number byte => number * 256 + byte.toNat) 0

/-- The last `count` bytes of a number, high byte first. -/
def ofNat (count number : Nat) : Bytes :=
  (List.range count).reverse.map fun index => UInt8.ofNat (number / Nat.pow 256 index)

/-- How many bytes a number needs. -/
def byteCount (number : Nat) : Nat := if number = 0 then 0 else number.log2 / 8 + 1

/-- A value with a tag and a content. -/
def encode (tag : UInt8) (content : Bytes) : Bytes :=
  let count := byteCount content.length
  let length :=
    if content.length < 128 then [UInt8.ofNat content.length]
    else UInt8.ofNat (128 + count) :: ofNat count content.length
  tag :: length ++ content

/-- A number as a value. A zero keeps the high bit clear. -/
def encodeNatural (number : Nat) : Bytes :=
  encode Tag.integer (ofNat (number.log2 / 8 + 1) number |> fun digits =>
    if digits.head?.any (· ≥ 128) then 0 :: digits else digits)

/-- Bytes as a bit string. -/
def encodeBits (bytes : Bytes) : Bytes := encode Tag.bitString (0 :: bytes)

end ProxyDial.Der
