import ProxyDial.Text.Cut

set_option autoImplicit false

/-! The grammar of authorities: `user@host:port`, where the user and the port may be missing and the
host may stand in brackets. -/

namespace ProxyDial.Authority
open Text

/-- Why a text is no authority. -/
inductive Problem
  | empty
  | character
  | structural
  deriving DecidableEq, Repr

def Problem.message : Problem → String
  | empty => "empty string"
  | character => "invalid uri character"
  | structural => "invalid authority"

/-- Letters, digits and marks that an authority may hold next to its separators. -/
def isPlain (c : Char) : Bool :=
  c.isAlphanum || c ∈ ['!', '$', '&', '\'', '(', ')', '*', '+', ',', '-', '.', ';', '=', '_', '~']

/-- What has been seen of an authority. -/
structure Scan where
  /-- Colons since the last at sign or closing bracket. -/
  colons : Nat := 0
  opened : Bool := false
  closed : Bool := false
  /-- A percent sign since the last at sign or closing bracket. -/
  percent : Bool := false
  /-- The character just seen is an at sign. -/
  endsInAt : Bool := false
  deriving DecidableEq, Repr

/-- A bracketed address has seven colons, and one more stands in front of a port. -/
def maxColons : Nat := 8

namespace Scan

/-- One more character. A percent sign is of use in user information and between brackets only, and
there is at most one pair of brackets. -/
def step (scan : Scan) (c : Char) : Except Problem Scan :=
  let scan := { scan with endsInAt := c = '@' }
  if c = ':' then
    if scan.colons ≥ maxColons then .error .structural
    else .ok { scan with colons := scan.colons + 1 }
  else if c = '[' then
    if scan.percent || scan.opened then .error .structural else .ok { scan with opened := true }
  else if c = ']' then
    if !scan.opened || scan.closed then .error .structural
    else .ok { scan with closed := true, colons := 0, percent := false }
  else if c = '@' then .ok { scan with colons := 0, percent := false }
  else if c = '%' then .ok { scan with percent := true }
  else if isPlain c then .ok scan
  else .error .character

/-- The rules that hold for the whole text. -/
def check (scan : Scan) : Except Problem Unit :=
  if scan.opened ≠ scan.closed || scan.colons > 1 || scan.endsInAt || scan.percent then
    .error .structural
  else .ok ()

end Scan

def endsAuthorityText (c : Char) : Bool := c ∈ ['/', '?', '#']

/-- Whether the whole text is an authority. -/
def validate (text : List Char) : Except Problem Unit :=
  if text.isEmpty then .error .empty
  else do
    let scan ← (text.takeWhile fun c => !endsAuthorityText c).foldlM Scan.step {}
    scan.check
    if text.any endsAuthorityText then .error .character else .ok ()

/-- The text behind the last at sign. -/
def withoutUser (text : List Char) : List Char :=
  ((cutAtLast? '@' text).map (·.2)).getD text

/-- The host of an authority, with its brackets. -/
def host (text : List Char) : List Char :=
  match withoutUser text with
  | '[' :: rest => '[' :: rest.takeWhile (· ≠ ']') ++ [']']
  | rest => rest.takeWhile (· ≠ ':')

/-- The text behind the last colon. -/
def portText? (text : List Char) : Option (List Char) := (cutAtLast? ':' text).map (·.2)

end ProxyDial.Authority
