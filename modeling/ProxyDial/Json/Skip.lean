import ProxyDial.Json.Literal
import ProxyDial.Json.Number

set_option autoImplicit false

/-! Values of JSON texts that nobody asks for. They are skipped with a list of the brackets that are
open, so that no depth is too great. -/

namespace ProxyDial.Json

inductive Bracket
  | list
  | object
  deriving DecidableEq, Repr

def isClosedBy (bracket : Bracket) (c : Char) : Bool :=
  match bracket with
  | .list => c = ']'
  | .object => c = '\x7d'

/-- The text behind the key of a member, given the text where the key should start. -/
def skipKey (text : List Char) : Except Stop (List Char) :=
  match skipSpace text with
  | '"' :: rest => do
      match skipSpace (← skipString rest) with
      | ':' :: rest => .ok rest
      | [] => .error (.here .endInObject [])
      | other => .error (.here .expectedColon other)
  | [] => .error (.here .endInObject [])
  | other => .error (.here .keyNotString other)

/-- The text behind a value that opens no bracket. -/
def skipScalar (text : List Char) : Except Stop (List Char) :=
  match text with
  | 'n' :: rest => readWord "ull".toList rest
  | 't' :: rest => readWord "rue".toList rest
  | 'f' :: rest => readWord "alse".toList rest
  | '-' :: rest => skipNumber rest
  | '"' :: rest => skipString rest
  | [] => .error (.here .endInValue [])
  | c :: rest =>
      if Text.isDigit c then skipNumber (c :: rest) else .error (.here .expectedValue (c :: rest))

def opens? : Char → Option Bracket
  | '[' => some .list
  | '\x7b' => some .object
  | _ => none

/-- What comes next while values are skipped. -/
inductive Expectation
  /-- A value. -/
  | value
  /-- The first entry between brackets, or their end. -/
  | first
  /-- A comma, or the end of the brackets. -/
  | next
  deriving DecidableEq, Repr

/-- The text behind the values and brackets that are open. Every two steps read at least one
character, so `room` steps are enough for half as many characters. -/
def skipOpen : (room : Nat) → Expectation → List Bracket → List Char →
    Except Stop (List Char)
  | 0, _, _, _ => .error (.here .endInValue [])
  | _ + 1, .first, [], text | _ + 1, .next, [], text => .ok text
  | room + 1, .value, opened, text =>
      match skipSpace text with
      | [] => .error (.here .endInValue [])
      | c :: rest =>
          match opens? c with
          | some bracket => skipOpen room .first (bracket :: opened) rest
          | none => do skipOpen room .next opened (← skipScalar (c :: rest))
  | room + 1, expected, bracket :: opened, text =>
      match skipSpace text with
      | [] => .error (.here (if bracket = .list then .endInList else .endInObject) [])
      | c :: rest =>
          if isClosedBy bracket c then skipOpen room .next opened rest
          else if expected = .next && c ≠ ',' then
            .error (.here
              (if bracket = .list then .expectedCommaInList else .expectedCommaInObject)
              (c :: rest))
          else
            let entry := if expected = .next then rest else c :: rest
            match bracket with
            | .list => skipOpen room .value (bracket :: opened) entry
            | .object => do skipOpen room .value (bracket :: opened) (← skipKey entry)

/-- The text behind one value. -/
def skipValue (text : List Char) : Except Stop (List Char) :=
  skipOpen (2 * text.length + 2) .value [] text

end ProxyDial.Json
