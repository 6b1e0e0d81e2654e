import ProxyDial.Json.Stop
import ProxyDial.Text.Bytes

set_option autoImplicit false

/-! Words and strings of JSON texts: reading them for their value, and skipping them. A string that
is skipped is checked less: its escapes need not make sense together. -/

namespace ProxyDial.Json

/-- The rest of a word whose first letter has been seen. -/
def readWord : (letters : List Char) → List Char → Except Stop (List Char)
  | [], text => .ok text
  | _ :: _, [] => .error (.here .endInValue [])
  | letter :: letters, c :: rest =>
      if c = letter then readWord letters rest else .error (.here .expectedWord (c :: rest))

/-- The value of the four hexadecimal digits of an escape. -/
def readHex (text : List Char) : Except Stop (Nat × List Char) :=
  if byteCount text < 4 then .error (.here .endInString [])
  else
    match (text.take 4).mapM Text.hexDigitValue? with
    | some digits => .ok (digits.foldl (fun value digit => 16 * value + digit) 0, text.drop 4)
    | none => .error (.placed .invalidEscape (byteCount text - 4))

def isLeading (unit : Nat) : Bool := 0xd800 ≤ unit && unit ≤ 0xdbff

def isTrailing (unit : Nat) : Bool := 0xdc00 ≤ unit && unit ≤ 0xdfff

/-- One expected character of the second half of a pair of surrogates. -/
def readMark (mark : Char) : List Char → Except Stop (List Char)
  | [] => .error (.here .endInString [])
  | c :: rest => if c = mark then .ok rest else .error (.here .unfinishedSurrogate (c :: rest))

/-- The character that an escape with hexadecimal digits stands for. Characters beyond the sixteen
bits of one escape are written as two. -/
def readCodeUnit (text : List Char) : Except Stop (Char × List Char) := do
  let (unit, text) ← readHex text
  if isTrailing unit then .error (.after .loneSurrogate text)
  else if isLeading unit then
    let text ← readMark '\\' text
    let text ← readMark 'u' text
    let (second, text) ← readHex text
    if isTrailing second then
      return (Char.ofNat ((unit - 0xd800) * 0x400 + (second - 0xdc00) + 0x10000), text)
    else .error (.after .loneSurrogate text)
  else return (Char.ofNat unit, text)

/-- The character that a letter behind a backslash stands for. -/
def escaped? : Char → Option Char
  | '"' => some '"'
  | '\\' => some '\\'
  | '/' => some '/'
  | 'b' => some '\x08'
  | 'f' => some '\x0c'
  | 'n' => some '\n'
  | 'r' => some '\r'
  | 't' => some '\t'
  | _ => none

/-- The character that the text behind a backslash stands for. -/
def readEscape : List Char → Except Stop (Char × List Char)
  | [] => .error (.here .endInString [])
  | 'u' :: rest => readCodeUnit rest
  | c :: rest =>
      match escaped? c with
      | some meaning => .ok (meaning, rest)
      | none => .error (.here .invalidEscape (c :: rest))

def skipEscape : List Char → Except Stop (List Char)
  | [] => .error (.here .endInString [])
  | 'u' :: rest => (readHex rest).map (·.2)
  | c :: rest =>
      if (escaped? c).isSome then .ok rest else .error (.here .invalidEscape (c :: rest))

def isControlCharacter (c : Char) : Bool := c.toNat < 0x20

/-- The characters of a string whose opening quote has been read. Every step reads at least one
character, so `room` steps are enough for a text of `room` characters. -/
def readChars : (room : Nat) → List Char → Except Stop (List Char × List Char)
  | 0, _ | _ + 1, [] => .error (.here .endInString [])
  | room + 1, c :: rest =>
      if c = '"' then .ok ([], rest)
      else if c = '\\' then do
        let (meaning, rest) ← readEscape rest
        let (more, rest) ← readChars room rest
        return (meaning :: more, rest)
      else if isControlCharacter c then .error (.here .controlCharacter (c :: rest))
      else do
        let (more, rest) ← readChars room rest
        return (c :: more, rest)

/-- The string whose opening quote has been read. -/
def readString (text : List Char) : Except Stop (String × List Char) :=
  (readChars (text.length + 1) text).map fun found => (String.ofList found.1, found.2)

def skipChars : (room : Nat) → List Char → Except Stop (List Char)
  | 0, _ | _ + 1, [] => .error (.here .endInString [])
  | room + 1, c :: rest =>
      if c = '"' then .ok rest
      else if c = '\\' then do skipChars room (← skipEscape rest)
      else if isControlCharacter c then .error (.after .controlCharacter (c :: rest))
      else skipChars room rest

/-- The text behind a string whose opening quote has been read. -/
def skipString (text : List Char) : Except Stop (List Char) := skipChars (text.length + 1) text

end ProxyDial.Json
