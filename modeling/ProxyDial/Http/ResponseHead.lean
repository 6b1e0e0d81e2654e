import ProxyDial.Text.Bytes

set_option autoImplicit false

/-! The head of an HTTP response: a status line, header lines, and an empty line. It is read from
the bytes that are there so far, which may end anywhere. Lines end with a line feed, with or without
a carriage return in front. -/

namespace ProxyDial.Http
open Text

/-- What is wrong with a head. -/
inductive HeadProblem
  | version
  | status
  | newLine
  | headerName
  | headerValue
  | tooManyHeaders
  deriving DecidableEq, Repr

def HeadProblem.message : HeadProblem → String
  | version => "invalid HTTP version"
  | status => "invalid response status"
  | newLine => "invalid new line"
  | headerName => "invalid header name"
  | headerValue => "invalid header value"
  | tooManyHeaders => "too many headers"

/-- Why a head is not read. -/
inductive Unread
  /-- More bytes may complete it. -/
  | incomplete
  | malformed (problem : HeadProblem)
  deriving DecidableEq, Repr

/-- The first byte. -/
def nextByte : Bytes → Except Unread (UInt8 × Bytes)
  | [] => .error .incomplete
  | byte :: rest => .ok (byte, rest)

def lineFeed : UInt8 := 0x0a

def carriageReturn : UInt8 := 0x0d

/-- The rest of a line end whose first byte has been read. -/
def endLine (problem : HeadProblem) (byte : UInt8) (rest : Bytes) : Except Unread Bytes :=
  if byte = lineFeed then .ok rest
  else if byte = carriageReturn then do
    let (second, rest) ← nextByte rest
    if second = lineFeed then .ok rest else .error (.malformed problem)
  else .error (.malformed problem)

/-- Empty lines in front of a head do not matter. -/
def skipEmptyLines : Bytes → Except Unread Bytes
  | [] => .error .incomplete
  | byte :: rest =>
      if byte = lineFeed then skipEmptyLines rest
      else if byte = carriageReturn then
        match rest with
        | [] => .error .incomplete
        | second :: rest =>
            if second = lineFeed then skipEmptyLines rest else .error (.malformed .newLine)
      else .ok (byte :: rest)

def versionStart : Bytes := utf8 "HTTP/1."

/-- The text behind the version, which is 1.0 or 1.1. -/
def skipVersion (bytes : Bytes) : Except Unread Bytes :=
  if bytes.length < 8 then
    .error (if bytes.isPrefixOf versionStart then .incomplete else .malformed .version)
  else if versionStart.isPrefixOf bytes && (bytes.getD 7 0 = 0x30 || bytes.getD 7 0 = 0x31) then
    .ok (bytes.drop 8)
  else .error (.malformed .version)

/-- One digit of the status code. -/
def readCodeDigit (bytes : Bytes) : Except Unread (Nat × Bytes) := do
  let (byte, rest) ← nextByte bytes
  if 0x30 ≤ byte && byte ≤ 0x39 then return (byte.toNat - 0x30, rest)
  else .error (.malformed .status)

def isReasonByte (byte : UInt8) : Bool :=
  byte = 0x09 || (0x20 ≤ byte && byte ≤ 0x7e) || 0x80 ≤ byte

/-- The reason phrase in front of the end of the line. -/
def readReason (bytes : Bytes) : Except Unread (Bytes × Bytes) := do
  let (byte, rest) ← nextByte (bytes.dropWhile isReasonByte)
  return (bytes.takeWhile isReasonByte, ← endLine .status byte rest)

def isNameByte (byte : UInt8) : Bool :=
  (0x30 ≤ byte && byte ≤ 0x39) || (0x41 ≤ byte && byte ≤ 0x5a) || (0x61 ≤ byte && byte ≤ 0x7a) ||
    byte ∈ (utf8 "!#$%&'*+-.^_`|~")

def isValueByte (byte : UInt8) : Bool := isReasonByte byte

/-- The bytes behind a header line. Its first byte has been seen and may stand in a name. -/
def skipHeader (bytes : Bytes) : Except Unread Bytes := do
  let (colon, rest) ← nextByte (bytes.dropWhile isNameByte)
  if colon ≠ 0x3a then .error (.malformed .headerName)
  else
    let (byte, rest) ← nextByte (rest.dropWhile isValueByte)
    endLine .headerValue byte rest

/-- The bytes behind the header lines and the empty line. `room` is the number of headers that may
still come. -/
def skipHeaders (room : Nat) (bytes : Bytes) : Except Unread Bytes := do
  let (byte, rest) ← nextByte bytes
  if byte = lineFeed || byte = carriageReturn then endLine .newLine byte rest
  else if !isNameByte byte then .error (.malformed .headerName)
  else
    let rest ← skipHeader bytes
    match room with
    | 0 => .error (.malformed .tooManyHeaders)
    | room + 1 => skipHeaders room rest

structure ResponseHead where
  code : Nat
  /-- The reason phrase; empty where it holds bytes that are not ASCII. -/
  reason : Bytes
  /-- The number of bytes up to and with the empty line. -/
  length : Nat
  deriving DecidableEq, Repr

namespace ResponseHead

/-- How many headers a head may have. -/
def maxHeaders : Nat := 64

def readStatusLine (bytes : Bytes) : Except Unread (Nat × Bytes × Bytes) := do
  let bytes ← skipVersion (← skipEmptyLines bytes)
  let (space, bytes) ← nextByte bytes
  if space ≠ 0x20 then .error (.malformed .version)
  else
    let (hundreds, bytes) ← readCodeDigit bytes
    let (tens, bytes) ← readCodeDigit bytes
    let (ones, bytes) ← readCodeDigit bytes
    let code := 100 * hundreds + 10 * tens + ones
    let (byte, rest) ← nextByte bytes
    if byte = 0x20 then
      let (reason, rest) ← readReason rest
      return (code, if reason.all (· < 0x80) then reason else [], rest)
    else return (code, [], ← endLine .status byte rest)

/-- The head at the start of the bytes. -/
def ofBytes (bytes : Bytes) : Except Unread ResponseHead := do
  let (code, reason, rest) ← readStatusLine bytes
  let rest ← skipHeaders maxHeaders rest
  return ⟨code, reason, bytes.length - rest.length⟩

/-- Status code and reason phrase, without blanks at the end. -/
def status (head : ResponseHead) : String :=
  let blank (byte : UInt8) : Bool := byte = 0x20 || byte = 0x09
  let text := utf8 (toString head.code ++ " ") ++ head.reason
  lossy ((text.reverse.dropWhile blank).reverse)

end ResponseHead

end ProxyDial.Http
