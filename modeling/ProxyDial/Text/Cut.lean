set_option autoImplicit false

/-! Cutting a text in two at a mark. The mark itself belongs to neither part. -/

namespace ProxyDial.Text

/-- The text before the first and after the first `mark`, where there is one. -/
def cutAt? (mark : Char) (text : List Char) : Option (List Char × List Char) :=
  if mark ∈ text then
    some (text.takeWhile (· ≠ mark), (text.dropWhile (· ≠ mark)).drop 1)
  else none

/-- The text before the last and after the last `mark`, where there is one. -/
def cutAtLast? (mark : Char) (text : List Char) : Option (List Char × List Char) :=
  (cutAt? mark text.reverse).map fun cut => (cut.2.reverse, cut.1.reverse)

/-- The text before the first and after the first occurrence of the text `mark`. -/
def cutAtText? (mark : List Char) : List Char → Option (List Char × List Char)
  | [] => if mark = [] then some ([], []) else none
  | c :: rest =>
      if mark.isPrefixOf (c :: rest) then some ([], (c :: rest).drop mark.length)
      else (cutAtText? mark rest).map fun cut => (c :: cut.1, cut.2)

end ProxyDial.Text
