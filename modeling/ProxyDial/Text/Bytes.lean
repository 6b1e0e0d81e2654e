import ProxyDial.Text.Number

set_option autoImplicit false

/-! Texts as the bytes of their UTF-8 encoding, and back. -/

namespace ProxyDial.Text

abbrev Bytes := List UInt8

/-- The UTF-8 encoding of a text. -/
def utf8 (text : String) : Bytes := text.toUTF8.toList

/-- The text that UTF-8 encodes; `none` for bytes that encode no text. -/
def ofUtf8? (bytes : Bytes) : Option String := String.fromUTF8? ⟨bytes.toArray⟩

/-- The bytes that may follow the first byte of a character, given how many are still to come.
Overlong forms, surrogates and numbers that are no code points are ruled out at the second byte. -/
def secondByteFits (first second : UInt8) : Bool :=
  let low : UInt8 := if first = 0xe0 then 0xa0 else if first = 0xf0 then 0x90 else 0x80
  let high : UInt8 := if first = 0xed then 0x9f else if first = 0xf4 then 0x8f else 0xbf
  low ≤ second && second ≤ high

def isContinuation (byte : UInt8) : Bool := 0x80 ≤ byte && byte ≤ 0xbf

/-- How many bytes a character has whose first byte is this one; none for no first byte. -/
def charLength (first : UInt8) : Nat :=
  if first < 0x80 then 1
  else if 0xc2 ≤ first && first ≤ 0xdf then 2
  else if 0xe0 ≤ first && first ≤ 0xef then 3
  else if 0xf0 ≤ first && first ≤ 0xf4 then 4
  else 0

/-- The six bits that a byte after the first brings to its character. -/
def sixBits (byte : UInt8) : Nat := byte.toNat % 64

/-- The first character of the bytes and the number of bytes it takes. Where they start with no
character, the replacement character stands for the longest start of one. -/
def firstChar (first : UInt8) (rest : Bytes) : Char × Nat :=
  let replacement := Char.ofNat 0xfffd
  match charLength first, rest with
  | 0, _ => (replacement, 1)
  | 1, _ => (Char.ofNat first.toNat, 1)
  | 2, second :: _ =>
      if isContinuation second then (Char.ofNat (first.toNat % 32 * 64 + sixBits second), 2)
      else (replacement, 1)
  | 3, second :: third :: _ =>
      if !secondByteFits first second then (replacement, 1)
      else if isContinuation third then
        (Char.ofNat (first.toNat % 16 * 4096 + sixBits second * 64 + sixBits third), 3)
      else (replacement, 2)
  | 3, [second] => (replacement, if secondByteFits first second then 2 else 1)
  | 4, second :: third :: fourth :: _ =>
      if !secondByteFits first second then (replacement, 1)
      else if !isContinuation third then (replacement, 2)
      else if isContinuation fourth then
        (Char.ofNat (first.toNat % 8 * 262144 + sixBits second * 4096 + sixBits third * 64 +
          sixBits fourth), 4)
      else (replacement, 3)
  | 4, [second, third] =>
      if !secondByteFits first second then (replacement, 1)
      else (replacement, if isContinuation third then 3 else 2)
  | 4, [second] => (replacement, if secondByteFits first second then 2 else 1)
  | _, _ => (replacement, 1)

/-- The text of the bytes, with a replacement character for whatever encodes none. -/
def lossyChars : Bytes → List Char
  | [] => []
  | first :: rest =>
      let found := firstChar first rest
      found.1 :: lossyChars (rest.drop (found.2 - 1))
termination_by bytes => bytes.length
decreasing_by simp only [List.length_drop, List.length_cons]; omega

def lossy (bytes : Bytes) : String := String.ofList (lossyChars bytes)

/-- Two lower-case hexadecimal digits per byte. -/
def hex (bytes : Bytes) : String :=
  String.ofList (bytes.flatMap fun byte =>
    [Nat.digitChar (byte.toNat / 16), Nat.digitChar (byte.toNat % 16)])

/-- The bytes that pairs of hexadecimal digits write. -/
def ofHex? : List Char → Option Bytes
  | [] => some []
  | [_] => none
  | high :: low :: rest => do
      let byte := UInt8.ofNat (16 * (← hexDigitValue? high) + (← hexDigitValue? low))
      return byte :: (← ofHex? rest)

end ProxyDial.Text
