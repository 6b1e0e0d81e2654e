set_option autoImplicit false

/-! Blanks and trimming. A blank is any character with the Unicode property `White_Space`. -/

namespace ProxyDial.Text

def isBlank (c : Char) : Bool :=
  (0x09 ≤ c.toNat && c.toNat ≤ 0x0d) || c.toNat = 0x20 || c.toNat = 0x85 || c.toNat = 0xa0 ||
    c.toNat = 0x1680 || (0x2000 ≤ c.toNat && c.toNat ≤ 0x200a) || c.toNat = 0x2028 ||
    c.toNat = 0x2029 || c.toNat = 0x202f || c.toNat = 0x205f || c.toNat = 0x3000

/-- The text without the characters at its end that have the property. -/
def dropEndWhile (p : Char → Bool) (text : List Char) : List Char :=
  (text.reverse.dropWhile p).reverse

/-- The text without the blanks at its two ends. -/
def trimmed (text : List Char) : List Char := dropEndWhile isBlank (text.dropWhile isBlank)

def trim (text : String) : String := String.ofList (trimmed text.toList)

/-- Nothing for an absent text and for one that is blank; otherwise the text, trimmed. -/
def nonBlank? (text : Option String) : Option String :=
  (text.map trim).filter (· ≠ "")

/-- Without any opening brackets at the start and closing brackets at the end. -/
def unbracketed (text : List Char) : List Char :=
  dropEndWhile (· = ']') (text.dropWhile (· = '['))

end ProxyDial.Text
