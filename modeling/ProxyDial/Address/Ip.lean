import ProxyDial.Text.Number

set_option autoImplicit false

/-! IP addresses: their values, the texts that are read as one, and the text each is written as. -/

namespace ProxyDial

/-- The four octets of an IPv4 address. -/
structure Ipv4 where
  a : UInt8
  b : UInt8
  c : UInt8
  d : UInt8
  deriving DecidableEq, Repr

/-- The eight groups of an IPv6 address. -/
structure Ipv6 where
  groups : Vector UInt16 8
  deriving DecidableEq, Repr

inductive IpAddress
  | v4 (address : Ipv4)
  | v6 (address : Ipv6)
  deriving DecidableEq, Repr

namespace Ipv4
open Text

def octets (address : Ipv4) : List UInt8 := [address.a, address.b, address.c, address.d]

/-- The decimal digits of a number. -/
def decimal (n : Nat) : List Char := Nat.toDigits 10 n

def toChars (address : Ipv4) : List Char :=
  decimal address.a.toNat ++ '.' :: decimal address.b.toNat ++ '.' ::
    decimal address.c.toNat ++ '.' :: decimal address.d.toNat

instance : ToString Ipv4 := ⟨fun address => String.ofList address.toChars⟩

/-- The digits at the start of a text that write an octet, and the rest: one to three digits, no
leading zero, and a value below 256. -/
def readOctet? (text : List Char) : Option (UInt8 × List Char) :=
  let digits := text.takeWhile isDigit
  if digits.length ≤ 3 && (digits.length = 1 || digits.head? ≠ some '0') then
    (readDigits? 256 digits).map fun value => (UInt8.ofNat value, text.dropWhile isDigit)
  else none

/-- Reads one character. -/
def skip? (expected : Char) : List Char → Option (List Char)
  | c :: rest => if c = expected then some rest else none
  | [] => none

/-- An address at the start of a text, and the rest. -/
def read? (text : List Char) : Option (Ipv4 × List Char) := do
  let (a, text) ← readOctet? text
  let (b, text) ← readOctet? (← skip? '.' text)
  let (c, text) ← readOctet? (← skip? '.' text)
  let (d, text) ← readOctet? (← skip? '.' text)
  return (⟨a, b, c, d⟩, text)

/-- The address that the whole text writes. -/
def ofChars? (text : List Char) : Option Ipv4 :=
  match read? text with
  | some (address, []) => some address
  | _ => none

/-- The address as one number of 32 bits. -/
def toNat (address : Ipv4) : Nat :=
  ((address.a.toNat * 256 + address.b.toNat) * 256 + address.c.toNat) * 256 + address.d.toNat

def ofNat (bits : Nat) : Ipv4 :=
  ⟨UInt8.ofNat (bits / 16777216), UInt8.ofNat (bits / 65536), UInt8.ofNat (bits / 256),
    UInt8.ofNat bits⟩

end Ipv4

namespace Ipv6
open Text

/-- An address from its first groups; those that are missing are zero. -/
def ofList (groups : List UInt16) : Ipv6 := ⟨Vector.ofFn fun index => groups.getD index.val 0⟩

def toList (address : Ipv6) : List UInt16 := address.groups.toList

/-- The sixteen octets, those of a group from the high one to the low one. -/
def octets (address : Ipv6) : List UInt8 :=
  address.toList.flatMap fun (group : UInt16) => [(group >>> 8).toUInt8, group.toUInt8]

/-- An address from its octets. -/
def ofOctets (octets : List UInt8) : Ipv6 :=
  ofList ((List.range 8).map fun index =>
    (octets.getD (2 * index) 0).toUInt16 * 256 + (octets.getD (2 * index + 1) 0).toUInt16)

/-- The hexadecimal digits of a group, without leading zeros. -/
def groupChars (group : UInt16) : List Char := Nat.toDigits 16 group.toNat

def joinGroups (groups : List UInt16) : List Char :=
  [':'].intercalate (groups.map groupChars)

/-- How many groups are zero from the start on. -/
def zeros (groups : List UInt16) : Nat := (groups.takeWhile (· = 0)).length

/-- The start and the length of the longest run of zero groups; the first of equally long ones. -/
def longestZeros (groups : List UInt16) : Nat × Nat :=
  (List.range 8).foldl
    (fun best start =>
      let length := zeros (groups.drop start)
      if length > best.2 then (start, length) else best)
    (0, 0)

/-- The address with its longest run of at least two zero groups written as two colons. -/
def compressed (address : Ipv6) : List Char :=
  let groups := address.toList
  let (start, length) := longestZeros groups
  if length < 2 then joinGroups groups
  else joinGroups (groups.take start) ++ [':', ':'] ++ joinGroups (groups.drop (start + length))

/-- The IPv4 address that an address of the form `::ffff:a.b.c.d` stands for. -/
def mapped? (address : Ipv6) : Option Ipv4 :=
  match address.toList with
  | [0, 0, 0, 0, 0, 0xffff, high, low] => some (.ofNat (high.toNat * 65536 + low.toNat))
  | _ => none

/-- The written form: an address that stands for an IPv4 one shows it with dots. -/
def toChars (address : Ipv6) : List Char :=
  match address.mapped? with
  | some inner => "::ffff:".toList ++ inner.toChars
  | none => address.compressed

instance : ToString Ipv6 := ⟨fun address => String.ofList address.toChars⟩

def isHexDigit (c : Char) : Bool := (hexDigitValue? c).isSome

/-- A group at the start of a text, and the rest: one to four hexadecimal digits. -/
def readGroup? (text : List Char) : Option (UInt16 × List Char) :=
  let digits := text.takeWhile isHexDigit
  if 1 ≤ digits.length && digits.length ≤ 4 then
    let value := digits.foldl (fun value c => 16 * value + (hexDigitValue? c).getD 0) 0
    some (UInt16.ofNat value, text.dropWhile isHexDigit)
  else none

/-- The text after the colon that stands before every group but the first. -/
def skipColon? (first : Bool) (text : List Char) : Option (List Char) :=
  if first then some text
  else match text with
    | ':' :: rest => some rest
    | _ => none

/-- What was read of an address: groups, whether an IPv4 address ended them, and the text left. -/
structure Groups where
  groups : List UInt16
  dotted : Bool
  rest : List Char

/-- Up to `room` groups with colons between them. An IPv4 address may take the place of two. -/
def readGroups (first : Bool) : (room : Nat) → List Char → Groups
  | 0, text => ⟨[], false, text⟩
  | room + 1, text =>
      match if room = 0 then none else (skipColon? first text).bind Ipv4.read? with
      | some (inner, rest) =>
          ⟨[UInt16.ofNat (inner.toNat / 65536), UInt16.ofNat inner.toNat], true, rest⟩
      | none =>
          match (skipColon? first text).bind readGroup? with
          | none => ⟨[], false, text⟩
          | some (group, rest) =>
              let found := readGroups false room rest
              { found with groups := group :: found.groups }

/-- The address that the whole text writes: eight groups, or fewer around two colons that stand for
at least one zero group. -/
def ofChars? (text : List Char) : Option Ipv6 :=
  let front := readGroups true 8 text
  if front.groups.length = 8 then
    if front.rest = [] then some (ofList front.groups) else none
  else if front.dotted then none
  else match front.rest with
    | ':' :: ':' :: rest =>
        let back := readGroups true (7 - front.groups.length) rest
        let gap := List.replicate (8 - front.groups.length - back.groups.length) 0
        if back.rest = [] then some (ofList (front.groups ++ gap ++ back.groups)) else none
    | _ => none

end Ipv6

namespace IpAddress

def toChars : IpAddress → List Char
  | .v4 address => address.toChars
  | .v6 address => address.toChars

instance : ToString IpAddress := ⟨fun address => String.ofList address.toChars⟩

/-- The address that the whole text writes. -/
def ofChars? (text : List Char) : Option IpAddress :=
  match Ipv4.ofChars? text with
  | some address => some (.v4 address)
  | none => (Ipv6.ofChars? text).map .v6

def ofString? (text : String) : Option IpAddress := ofChars? text.toList

end IpAddress

end ProxyDial
