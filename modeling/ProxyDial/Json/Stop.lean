import ProxyDial.Text.Number

set_option autoImplicit false

/-! Why and where the reading of a JSON text stops. A place is told by what lies behind it, so that
a reader need not count; line and column follow from that and the whole text. -/

namespace ProxyDial.Json

/-- What is wrong with a text. -/
inductive Problem
  | endInList | endInObject | endInString | endInValue
  | expectedColon | expectedCommaInList | expectedCommaInObject
  | expectedWord | expectedValue
  | invalidEscape | invalidNumber | numberOutOfRange | controlCharacter
  | keyNotString | loneSurrogate | unfinishedSurrogate
  | trailingComma | trailingText
  /-- A value that is not what its place asks for. -/
  | told (words : String)
  deriving DecidableEq, Repr

def Problem.message : Problem → String
  | endInList => "EOF while parsing a list"
  | endInObject => "EOF while parsing an object"
  | endInString => "EOF while parsing a string"
  | endInValue => "EOF while parsing a value"
  | expectedColon => "expected `:`"
  | expectedCommaInList => "expected `,` or `]`"
  | expectedCommaInObject => "expected `,` or `\x7d`"
  | expectedWord => "expected ident"
  | expectedValue => "expected value"
  | invalidEscape => "invalid escape"
  | invalidNumber => "invalid number"
  | numberOutOfRange => "number out of range"
  | controlCharacter => "control character (\\u0000-\\u001F) found while parsing a string"
  | keyNotString => "key must be a string"
  | loneSurrogate => "lone leading surrogate in hex escape"
  | unfinishedSurrogate => "unexpected end of hex escape"
  | trailingComma => "trailing comma"
  | trailingText => "trailing characters"
  | told words => words

/-- The number of bytes of a text in UTF-8. -/
def byteCount (text : List Char) : Nat := text.foldl (fun count c => count + c.utf8Size) 0

/-- The end of a reading that fails. -/
inductive Stop
  /-- The place is known: so many bytes lie behind it. -/
  | placed (problem : Problem) (behind : Nat)
  /-- A value is unfit. Whoever reads the value around it tells the place; this text is still
  unread. -/
  | floating (problem : Problem) (unread : List Char)
  deriving DecidableEq, Repr

namespace Stop

/-- The problem is the first character of `text`, or its end: the place is behind one byte more. -/
def here (problem : Problem) (text : List Char) : Stop := .placed problem (byteCount text - 1)

/-- The problem is in what has been read; `text` is unread. -/
def after (problem : Problem) (text : List Char) : Stop := .placed problem (byteCount text)

end Stop

/-- Line and column of the place with so many bytes in front of it. Lines count from one; a column
is the number of bytes since the start of the line. -/
def lineAndColumn (offset : Nat) (text : List Char) : Nat × Nat :=
  go offset 1 0 text
where
  go (offset line column : Nat) : List Char → Nat × Nat
    | [] => (line, column)
    | c :: rest =>
        if offset < c.utf8Size then (line, column + offset)
        else if c = '\n' then go (offset - c.utf8Size) (line + 1) 0 rest
        else go (offset - c.utf8Size) line (column + c.utf8Size) rest

/-- The words for a stop within a text. -/
def Stop.message (text : List Char) (stop : Stop) : String :=
  let (problem, behind) := match stop with
    | placed problem behind => (problem, behind)
    | floating problem unread => (problem, byteCount unread)
  let (line, column) := lineAndColumn (byteCount text - behind) text
  problem.message ++ " at line " ++ toString line ++ " column " ++ toString column

def isSpace (c : Char) : Bool := c = ' ' || c = '\n' || c = '\t' || c = '\r'

def skipSpace (text : List Char) : List Char := text.dropWhile isSpace

end ProxyDial.Json
