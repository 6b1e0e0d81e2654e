import ProxyDial.Unicode.CombiningClass
import ProxyDial.Unicode.Decomposition

set_option autoImplicit false

/-! Normalization Form C: a text is taken apart into base characters and marks, the marks after
each base are put in the order of their combining classes, and what composes is composed again. -/

namespace ProxyDial.Unicode

private def hangulBase : Nat := 0xac00
private def leadBase : Nat := 0x1100
private def vowelBase : Nat := 0x1161
private def tailBase : Nat := 0x11a7
private def leadCount : Nat := 19
private def vowelCount : Nat := 21
private def tailCount : Nat := 28

private def isHangulSyllable (c : Char) : Bool :=
  hangulBase ≤ c.toNat && c.toNat < hangulBase + leadCount * vowelCount * tailCount

private def hangulParts (c : Char) : List Char :=
  let index := c.toNat - hangulBase
  let lead := Char.ofNat (leadBase + index / (vowelCount * tailCount))
  let vowel := Char.ofNat (vowelBase + index % (vowelCount * tailCount) / tailCount)
  if index % tailCount = 0 then [lead, vowel]
  else [lead, vowel, Char.ofNat (tailBase + index % tailCount)]

/-- The characters that `c` is made of. No chain of decompositions is as long as `depth`. -/
private def partsOf : (depth : Nat) → Char → List Char
  | 0, c => [c]
  | depth + 1, c =>
      if c.toNat < 0xc0 then [c]
      else if isHangulSyllable c then hangulParts c
      else match decomposition? c with
        | none => [c]
        | some parts => parts.flatMap (partsOf depth)

/-- A mark goes before the marks of a higher class, but never before a base character. -/
private def insertMark (mark : Char) : List Char → List Char
  | [] => [mark]
  | before :: rest =>
      if combiningClass before > combiningClass mark then before :: insertMark mark rest
      else mark :: before :: rest

/-- The text in reverse, with each stretch of marks in the order of their classes. -/
private def orderMarks (text : List Char) : List Char :=
  text.foldl (fun reversed c =>
    if combiningClass c = 0 then c :: reversed else insertMark c reversed) []

/-- The canonical decomposition of a text. -/
def decomposed (text : List Char) : List Char :=
  (orderMarks (text.flatMap (partsOf 8))).reverse

/-- The character that two characters compose to. -/
def composition? (first second : Char) : Option Char :=
  let lead := first.toNat - leadBase
  let vowel := second.toNat - vowelBase
  let syllable := first.toNat - hangulBase
  let tail := second.toNat - tailBase
  if leadBase ≤ first.toNat ∧ lead < leadCount ∧ vowelBase ≤ second.toNat ∧ vowel < vowelCount then
    some (Char.ofNat (hangulBase + (lead * vowelCount + vowel) * tailCount))
  else if isHangulSyllable first ∧ syllable % tailCount = 0 ∧
      tailBase < second.toNat ∧ tail < tailCount then
    some (Char.ofNat (first.toNat + tail))
  else pairComposition? first second

/-- What composing has built: all before the last base, that base, and the marks after it that did
not compose, all but the base in reverse. -/
private structure Composing where
  done : List Char
  base : Option Char
  marks : List Char

private def Composing.text (state : Composing) : List Char :=
  state.marks ++ state.base.toList ++ state.done

/-- A character composes with the last base unless a mark of no lower class stands between. -/
private def composeNext (state : Composing) (c : Char) : Composing :=
  let reaches := match state.marks with
    | [] => true
    | last :: _ => combiningClass last < combiningClass c
  match state.base, reaches with
  | some base, true =>
      match composition? base c with
      | some whole => { state with base := some whole }
      | none =>
          if combiningClass c = 0 then ⟨state.text, some c, []⟩
          else { state with marks := c :: state.marks }
  | _, _ =>
      if combiningClass c = 0 then ⟨state.text, some c, []⟩
      else { state with marks := c :: state.marks }

/-- Normalization Form C of a text. -/
def composed (text : List Char) : List Char :=
  ((decomposed text).foldl composeNext ⟨[], none, []⟩).text.reverse

end ProxyDial.Unicode
