import ProxyDial.Idna.Label

set_option autoImplicit false

/-! Host names in their ASCII form. A name is prepared character by character, composed, cut at its
dots, checked label by label, and written with Punycode where a label is not ASCII. -/

namespace ProxyDial.Idna
open Unicode

/-- Every character replaced by its image; `none` if one is not allowed. -/
def prepared? (name : List Char) : Option (List Char) :=
  (name.mapM imageOf?).map fun images => composed images.flatten

/-- No label starts with `xn--`. -/
def isPlain (name : List Char) : Bool :=
  (name.splitOn '.').all fun label => !(['x', 'n', '-', '-'].isPrefixOf label)

/-- The ASCII form of a host name; `none` for a name that no host can have. A name that is ASCII
and holds no encoded label only goes to lower case. -/
def toAscii? (name : List Char) : Option (List Char) :=
  let lower := name.map Char.toLower
  if lower.all isAscii && isPlain lower then
    if lower.any isForbiddenAscii then none else some lower
  else do
    let labels ← ((← prepared? name).splitOn '.').mapM readLabel?
    if labels.any (·.any isForbiddenAscii) then none
    else if isBidi labels && !labels.all keepsDirection then none
    else
      let written ← labels.mapM writeLabel?
      some (['.'].intercalate written)

end ProxyDial.Idna
