import ProxyDial.Idna.MappingTable
import ProxyDial.Idna.Punycode
import ProxyDial.Unicode.BidiClass
import ProxyDial.Unicode.Composed
import ProxyDial.Unicode.Joining

set_option autoImplicit false

/-! Labels of host names: the parts between the dots, once the characters have been prepared. -/

namespace ProxyDial.Idna
open Unicode

/-- ASCII characters that no host name may hold. -/
def isForbiddenAscii (c : Char) : Bool :=
  c.toNat ≤ 0x20 || c.toNat = 0x7f ||
    c ∈ ['#', '%', '/', ':', '<', '>', '?', '@', '[', '\\', ']', '^', '|']

def isAscii (c : Char) : Bool := c.toNat < 0x80

def acePrefix : List Char := ['x', 'n', '-', '-']

/-- The zero width non-joiner stands after a virama, or between letters that would join. -/
def nonJoinerStands (before after : List Char) : Bool :=
  match before with
  | [] => false
  | last :: _ =>
      isVirama last ||
        ((before.dropWhile joinsThrough).head?.any joinsForward &&
          (after.dropWhile joinsThrough).head?.any joinsBackward)

/-- Every zero width joiner and non-joiner stands where it changes the look of the text.
`before` is the part already seen, in reverse. -/
def joinersStand : (before after : List Char) → Bool
  | _, [] => true
  | before, c :: rest =>
      let stands :=
        if c.toNat = 0x200c then nonJoinerStands before rest
        else if c.toNat = 0x200d then before.head?.any isVirama
        else true
      stands && joinersStand (c :: before) rest

/-- A label that may be encoded: it starts with no mark, every character is valid, and the joiners
stand where they may. -/
def isWellFormed (label : List Char) : Bool :=
  !label.head?.any isMark && label.all isValid && joinersStand [] label

/-- The prepared label that a written label stands for: itself, or what follows an `xn--`. An
encoded label must decode to the very text that would have been encoded. -/
def readLabel? (written : List Char) : Option (List Char) :=
  if acePrefix.isPrefixOf written then
    let encoded := written.drop 4
    if encoded.length > Punycode.decodeLimit then none
    else do
      let label ← Punycode.decode? encoded
      if !label.all isAscii && isWellFormed label && composed label = label &&
          !acePrefix.isPrefixOf label then some label else none
  else if isWellFormed written then some written else none

/-- The ASCII form of a prepared label. -/
def writeLabel? (label : List Char) : Option (List Char) :=
  if label.all isAscii then some label
  else if label.length > Punycode.encodeLimit then none
  else some (acePrefix ++ Punycode.encode label)

/-- Whether a class makes its whole host name subject to the rules on mixed directions. -/
def runsRightToLeft (c : Char) : Bool :=
  match bidiClass c with
  | .rightToLeft | .arabicLetter | .arabicNumber => true
  | _ => false

def isBidi (labels : List (List Char)) : Bool := labels.any (·.any runsRightToLeft)

def lastSpacing? (label : List Char) : Option BidiClass :=
  ((label.map bidiClass).reverse.dropWhile (· = .nonspacingMark)).head?

/-- The rules of RFC 5893 for one label of a host name with right-to-left characters. -/
def keepsDirection (label : List Char) : Bool :=
  let classes := label.map bidiClass
  match classes.head? with
  | none => true
  | some .leftToRight =>
      classes.all (· ∈ [.leftToRight, .europeanNumber, .europeanSeparator, .commonSeparator,
        .europeanTerminator, .otherNeutral, .boundaryNeutral, .nonspacingMark]) &&
      (lastSpacing? label).any (· ∈ [BidiClass.leftToRight, .europeanNumber])
  | some .rightToLeft | some .arabicLetter =>
      classes.all (· ∈ [.rightToLeft, .arabicLetter, .arabicNumber, .europeanNumber,
        .europeanSeparator, .commonSeparator, .europeanTerminator, .otherNeutral,
        .boundaryNeutral, .nonspacingMark]) &&
      (lastSpacing? label).any
        (· ∈ [BidiClass.rightToLeft, .arabicLetter, .europeanNumber, .arabicNumber]) &&
      !(classes.contains .europeanNumber && classes.contains .arabicNumber)
  | some _ => false

end ProxyDial.Idna
