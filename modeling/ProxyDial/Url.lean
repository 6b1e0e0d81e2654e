import ProxyDial.Address.Ip
import ProxyDial.Idna.HostName
import ProxyDial.Text.Blank
import ProxyDial.Text.Cut
import ProxyDial.Text.Number
import ProxyDial.Text.Percent

set_option autoImplicit false

/-! URLs that name a server. Of a URL only the authority matters here: who asks, the host, and the
port. The authority starts behind the scheme and ends where a path, a query or a fragment starts. -/

namespace ProxyDial
open Text

/-- How a URL is written. -/
inductive UrlKind
  /-- The host is an internet host, and a backslash is as good as a slash. -/
  | web
  /-- The host is a name that only its scheme understands, or an IPv6 address. -/
  | generic
  deriving DecidableEq, Repr

/-- The host of a URL. A name has at least one character. -/
inductive UrlHost
  | name (text : List Char)
  | v4 (address : Ipv4)
  | v6 (address : Ipv6)
  deriving DecidableEq, Repr

/-- The authority of a URL. User name and password are still percent-encoded. -/
structure Url where
  username : List Char
  password : List Char
  host : UrlHost
  port : Option UInt16
  deriving DecidableEq, Repr

namespace UrlHost

def toChars : UrlHost → List Char
  | name text => text
  | v4 address => address.toChars
  | v6 address => address.compressed

/-- A digit of the number base `radix`, which is 8, 10 or 16. -/
def digitOf? (radix : Nat) (c : Char) : Option Nat :=
  (hexDigitValue? c).filter (· < radix)

/-- A number with a base that its start tells: `0x` for 16, another `0` for 8, else 10. Nothing
behind the start writes zero. -/
def ipv4Number? (text : List Char) : Option Nat :=
  let (radix, digits) :=
    match text with
    | '0' :: 'x' :: rest | '0' :: 'X' :: rest => (16, rest)
    | '0' :: c :: rest => (8, c :: rest)
    | _ => (10, text)
  if text.isEmpty then none
  else (digits.mapM (digitOf? radix)).map (·.foldl (fun value digit => value * radix + digit) 0)

/-- Without the empty part behind a last dot. -/
def labels (name : List Char) : List (List Char) :=
  let parts := name.splitOn '.'
  if parts.getLast? = some [] then parts.dropLast else parts

/-- Whether the last part of a name is a number, so that the whole must be an IPv4 address. -/
def endsInNumber (name : List Char) : Bool :=
  match (labels name).getLast? with
  | none => false
  | some last => (!last.isEmpty && last.all isDigit) || (ipv4Number? last).isSome

/-- The address that one to four numbers write: the last fills all octets that are left. -/
def ipv4OfNumbers? : (room : Nat) → List Nat → Option Nat
  | 0, _ | _, [] => none
  | room + 1, [last] => if last < Nat.pow 256 (room + 1) then some last else none
  | room + 1, number :: rest =>
      if number < 256 then (ipv4OfNumbers? room rest).map (number * Nat.pow 256 room + ·) else none

def ipv4? (name : List Char) : Option Ipv4 := do
  let numbers ← (labels name).mapM ipv4Number?
  return Ipv4.ofNat (← ipv4OfNumbers? 4 numbers)

/-- An address between brackets. -/
def bracketed? (text : List Char) : Option UrlHost :=
  if text.getLast? = some ']' then (Ipv6.ofChars? text.dropLast).map .v6 else none

def isForbidden (c : Char) : Bool :=
  c ∈ ['\x00', '\t', '\n', '\r', ' ', '#', '/', ':', '<', '>', '?', '@', '[', '\\', ']', '^', '|']

def isControl (c : Char) : Bool := c.toNat < 0x20 || 0x7f ≤ c.toNat

/-- The host that a text names. -/
def ofChars? (kind : UrlKind) (text : List Char) : Option UrlHost :=
  match kind, text with
  | _, [] => none
  | _, '[' :: inner => bracketed? inner
  | .generic, text =>
      if text.any isForbidden then none else some (name (Percent.encode isControl text))
  | .web, text => do
      let decoded ← ofUtf8? (Percent.decodeBytes (utf8 (String.ofList text)))
      let ascii ← Idna.toAscii? decoded.toList
      if ascii.isEmpty then none
      else if endsInNumber ascii then (ipv4? ascii).map .v4
      else some (name ascii)

end UrlHost

namespace Url

/-- Control characters and blanks at the end are dropped, tabs and line ends everywhere. -/
def cleaned (text : List Char) : List Char :=
  (dropEndWhile (·.toNat ≤ 0x20) text).filter fun c => c ≠ '\t' && c ≠ '\n' && c ≠ '\r'

def endsAuthority (kind : UrlKind) (c : Char) : Bool :=
  c ∈ ['/', '?', '#'] || (kind = .web && c = '\\')

/-- The user information in front of the last at sign of the authority, and the text behind it. -/
def splitUser (kind : UrlKind) (text : List Char) : List Char × List Char :=
  match cutAtLast? '@' (text.takeWhile fun c => !endsAuthority kind c) with
  | none => ([], text)
  | some (user, _) => (user, text.drop (user.length + 1))

/-- The text of the host, and the text behind it. A colon between brackets is part of the host. -/
def splitHost (kind : UrlKind) : (inside : Bool) → List Char → List Char × List Char
  | _, [] => ([], [])
  | inside, c :: rest =>
      if endsAuthority kind c || (c = ':' && !inside) then ([], c :: rest)
      else
        let inside := if c = '[' then true else if c = ']' then false else inside
        let found := splitHost kind inside rest
        (c :: found.1, found.2)

def endsPort (c : Char) : Bool := c ∈ ['/', '\\', '?', '#']

/-- The port behind the host; no digits mean no port. -/
def readPort? : List Char → Option (Option UInt16)
  | ':' :: text =>
      let digits := text.takeWhile fun c => !endsPort c
      if digits.isEmpty then some none
      else (readDigits? 65536 digits).map fun port => some (UInt16.ofNat port)
  | _ => some none

/-- Characters of user information that are always written with a percent sign. -/
def isEncodedInUser (c : Char) : Bool :=
  c.toNat < 0x20 || 0x7f ≤ c.toNat ||
    c ∈ [' ', '"', '#', '<', '>', '?', '`', '\x7b', '\x7d', '/', ':', ';', '=', '@', '[', '\\', ']',
      '^', '|']

def encoded (text : List Char) : List Char := Percent.encode isEncodedInUser text

/-- The server that a URL names, given the text behind the scheme and its two slashes. -/
def ofChars? (kind : UrlKind) (text : List Char) : Option Url := do
  let text := cleaned text
  let text := match kind with
    | .web => text.dropWhile fun c => c = '/' || c = '\\'
    | .generic => text
  let (user, text) := splitUser kind text
  let (hostText, text) := splitHost kind false text
  let host ← UrlHost.ofChars? kind hostText
  let port ← readPort? text
  let (username, password) := (cutAt? ':' user).getD (user, [])
  return ⟨encoded username, encoded password, host, port⟩

end Url

end ProxyDial
