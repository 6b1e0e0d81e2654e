import ProxyDial.Text.Bytes

set_option autoImplicit false

/-! Base64 with the standard alphabet. Three bytes are written as four characters; padding fills
up the last four. The reader skips blanks and takes a last group without its padding. -/

namespace ProxyDial.Text.Base64

def alphabet : List Char :=
  "ABCDEFGHIJKLMNOPQRSTUVWXYZabcdefghijklmnopqrstuvwxyz0123456789+/".toList

/-- The character for six bits. -/
def charOf (value : Nat) : Char := alphabet.getD value '='

/-- The six bits that a character stands for. -/
def valueOf? (c : Char) : Option Nat := alphabet.idxOf? c

/-- The encoding, with padding. -/
def encode : List UInt8 → List Char
  | a :: b :: c :: rest =>
      let bits := a.toNat * 65536 + b.toNat * 256 + c.toNat
      charOf (bits / 262144) :: charOf (bits / 4096 % 64) :: charOf (bits / 64 % 64) ::
        charOf (bits % 64) :: encode rest
  | [a, b] =>
      let bits := a.toNat * 65536 + b.toNat * 256
      [charOf (bits / 262144), charOf (bits / 4096 % 64), charOf (bits / 64 % 64), '=']
  | [a] =>
      let bits := a.toNat * 65536
      [charOf (bits / 262144), charOf (bits / 4096 % 64), '=', '=']
  | [] => []

/-- Why a text is no base64. -/
inductive Problem
  | character (byte : UInt8)
  /-- Something follows the padding. -/
  | earlyPadding
  /-- The last group has a length that no bytes are written with, or too much padding. -/
  | incomplete
  deriving DecidableEq, Repr

def Problem.message : Problem → String
  | character byte => "InvalidCharacter(" ++ toString byte.toNat ++ ")"
  | earlyPadding => "PrematurePadding"
  | incomplete => "InvalidTrailingPadding"

/-- What a byte of the text is. -/
inductive Symbol
  | blank
  | value (bits : Nat)
  | padding
  | foreign

def symbolOf (byte : UInt8) : Symbol :=
  if (0x09 ≤ byte && byte ≤ 0x0d) || byte = 0x20 then .blank
  else
    let c := Char.ofNat byte.toNat
    if c = '=' then .padding
    else match valueOf? c with
      | some bits => .value bits
      | none => .foreign

/-- The three bytes that four characters write. -/
def threeBytes (a b c d : Nat) : Bytes :=
  let bits := ((a * 64 + b) * 64 + c) * 64 + d
  [UInt8.ofNat (bits / 65536), UInt8.ofNat (bits / 256), UInt8.ofNat bits]

/-- The bytes of the last characters, four at most; `none` stands for padding. -/
def lastFour : List (Option Nat) → Except Problem Bytes
  | [] => .ok []
  | [some a, some b, some c, some d] => .ok (threeBytes a b c d)
  | [some a, some b, some c, none] | [some a, some b, some c] => .ok ((threeBytes a b c 0).take 2)
  | [some a, some b, none, none] | [some a, some b] => .ok ((threeBytes a b 0 0).take 1)
  | _ => .error .incomplete

/-- The bytes of the last characters, eight at most. -/
def lastEight (group : List (Option Nat)) : Except Problem Bytes :=
  if group.length ≤ 4 then lastFour group
  else if (group.take (group.length - 4)).any Option.isNone then .error .earlyPadding
  else match group with
    | some a :: some b :: some c :: some d :: rest =>
        (lastFour rest).map (threeBytes a b c d ++ ·)
    | _ => .error .incomplete

/-- The bytes of eight characters that more characters follow. -/
def fullEight : List (Option Nat) → Except Problem Bytes
  | [some a, some b, some c, some d, some e, some f, some g, some h] =>
      .ok (threeBytes a b c d ++ threeBytes e f g h)
  | _ => .error .earlyPadding

/-- Reads the text behind a group of characters that is not yet complete. -/
def decodeFrom (group : List (Option Nat)) : Bytes → Except Problem Bytes
  | [] => lastEight group
  | byte :: rest =>
      let next (character : Option Nat) : Except Problem Bytes :=
        if group.length < 8 then decodeFrom (group ++ [character]) rest
        else do return (← fullEight group) ++ (← decodeFrom [character] rest)
      match symbolOf byte with
      | .blank => decodeFrom group rest
      | .value bits => next (some bits)
      | .padding => next none
      | .foreign => .error (.character byte)

/-- The bytes that a text writes. -/
def decode (text : Bytes) : Except Problem Bytes := decodeFrom [] text

end ProxyDial.Text.Base64
