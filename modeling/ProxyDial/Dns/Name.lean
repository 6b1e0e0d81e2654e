import ProxyDial.Text.Bytes

set_option autoImplicit false

/-! Domain names: labels of at most 63 bytes, together at most 255 bytes with a length in front of
each and an empty label at the end. A host is a name written with dots. -/

namespace ProxyDial.Dns
open Text

structure Name where
  labels : List Bytes
  deriving DecidableEq, Repr

namespace Name

def root : Name := ⟨[]⟩

def maxLabel : Nat := 63

def maxLength : Nat := 255

/-- The number of bytes of the name, with the empty label at its end. -/
def length (name : Name) : Nat :=
  name.labels.foldl (fun length label => length + label.length + 1) 1

/-- The name, each label behind its length. -/
def encode (name : Name) : Bytes :=
  name.labels.flatMap (fun label => UInt8.ofNat label.length :: label) ++ [0]

/-- Why a text is no name. -/
inductive Problem
  | character (c : Char)
  | emptyLabel
  | longLabel (length : Nat)
  | malformedLabel (label : String)
  | longName (length : Nat)
  deriving DecidableEq, Repr

def Problem.message : Problem → String
  | character c => "unrecognized char: " ++ String.ofList [c]
  | emptyLabel => "Label requires a minimum length of 1"
  | longLabel length => "label bytes exceed 63: " ++ toString length
  | malformedLabel label => "Malformed label: " ++ label
  | longName length => "name label data exceed 255: " ++ toString length

/-- Whether a character may stand in a label of a host. -/
def isLabelChar (isFirst : Bool) (c : Char) : Bool :=
  c.isAlphanum || c = '_' || c = '.' || (c = '-' && !isFirst) || (c = '*' && isFirst)

/-- The label that a text writes. -/
def label? (text : List Char) : Except Problem Bytes :=
  let bytes := utf8 (String.ofList text)
  if bytes.length > maxLabel then .error (.longLabel bytes.length)
  else match text with
    | [] => .error .emptyLabel
    | first :: rest =>
        if isLabelChar true first && rest.all (isLabelChar false) then .ok bytes
        else .error (.malformedLabel (String.ofList text))

def append (name : Name) (text : List Char) : Except Problem Name := do
  let label ← label? text
  let length := name.length + label.length + 1
  if length > maxLength then .error (.longName length) else return ⟨name.labels ++ [label]⟩

def octalDigit? (c : Char) : Option Nat :=
  if '0' ≤ c ∧ c ≤ '7' then some (c.toNat - '0'.toNat) else none

/-- What has been read of a label, in reverse. A backslash takes the next character as it is, or
three octal digits as the number of a character. -/
def readLabels (name : Name) : (label : List Char) → List Char → Except Problem Name
  | [], [] => .ok name
  | label, [] => append name label.reverse
  | label, '.' :: rest => do readLabels (← append name label.reverse) [] rest
  | label, '\\' :: first :: rest =>
      if first.isDigit then
        match octalDigit? first, rest with
        | some high, second :: third :: rest =>
            match octalDigit? second, octalDigit? third with
            | some middle, some low =>
                readLabels name (Char.ofNat (high * 64 + middle * 8 + low) :: label) rest
            | _, _ => .error (.character second)
        | _, _ => .error (.character first)
      else readLabels name (first :: label) rest
  | label, ['\\'] => append name label.reverse
  | label, c :: rest =>
      if c.toNat ≤ 0x20 || (0x7f ≤ c.toNat && c.toNat ≤ 0xa0) then .error (.character c)
      else readLabels name (c :: label) rest

/-- The name of a host. A dot at its end changes nothing. -/
def ofHost (host : String) : Except Problem Name :=
  let text := host.toList
  if text = [] || text = ['.'] then .ok root else readLabels root [] text

end Name

end ProxyDial.Dns
