import ProxyDial.Text.Bytes

set_option autoImplicit false

/-! Percent-encoding: a byte may be written as a percent sign and two hexadecimal digits. -/

namespace ProxyDial.Text.Percent

def upperHexDigit (value : Nat) : Char := (Nat.digitChar value).toUpper

/-- The three characters that write a byte. -/
def encodeByte (byte : UInt8) : List Char :=
  ['%', upperHexDigit (byte.toNat / 16), upperHexDigit (byte.toNat % 16)]

/-- A text in which every byte of a character of the set is written with a percent sign. -/
def encode (inSet : Char → Bool) (text : List Char) : List Char :=
  text.flatMap fun c =>
    if inSet c then (utf8 (String.ofList [c])).flatMap encodeByte else [c]

def percentByte : UInt8 := 0x25

def byteHexValue? (byte : UInt8) : Option Nat := hexDigitValue? (Char.ofNat byte.toNat)

/-- The bytes that a text stands for. A percent sign without two digits after it stands for itself.
-/
def decodeBytes : Bytes → Bytes
  | [] => []
  | byte :: rest =>
      if byte = percentByte then
        match rest with
        | high :: low :: tail =>
            match byteHexValue? high, byteHexValue? low with
            | some h, some l => UInt8.ofNat (16 * h + l) :: decodeBytes tail
            | _, _ => byte :: decodeBytes (high :: low :: tail)
        | short => byte :: decodeBytes short
      else byte :: decodeBytes rest
termination_by bytes => bytes.length

def decode (text : String) : Bytes := decodeBytes (utf8 text)

/-- The text that a percent-encoded text stands for; the text itself where the bytes are no UTF-8.
-/
def decodeText (text : String) : String := (ofUtf8? (decode text)).getD text

end ProxyDial.Text.Percent
