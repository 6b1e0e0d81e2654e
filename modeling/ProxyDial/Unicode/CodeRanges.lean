set_option autoImplicit false

/-! Sets and maps of characters, held as ranges of code points. A range is written `41-5a`, a
single code point `41`, all in hexadecimal; entries are separated by blanks. -/

namespace ProxyDial.Unicode

/-- The value of a hexadecimal digit; zero for any other character. -/
def hexDigitValue (c : Char) : Nat :=
  if '0' ≤ c ∧ c ≤ '9' then c.toNat - '0'.toNat
  else if 'a' ≤ c ∧ c ≤ 'f' then c.toNat - 'a'.toNat + 10
  else 0

/-- The number that lower-case hexadecimal digits write. -/
def hexNumber (digits : List Char) : Nat :=
  digits.foldl (fun value digit => 16 * value + hexDigitValue digit) 0

/-- The entries of a table: what stands between blanks. -/
def entriesOf (table : String) : List (List Char) :=
  (table.toList.splitOnP Char.isWhitespace).filter (· ≠ [])

/-- The two ends of a written range; a lone code point is its own range. -/
private def readSpan (span : List Char) : Nat × Nat :=
  match span.splitOn '-' with
  | [first, last] => (hexNumber first, hexNumber last)
  | _ => (hexNumber span, hexNumber span)

/-- A set of characters: the union of the ranges. -/
structure CodeRanges where
  spans : Array (Nat × Nat)

namespace CodeRanges

def ofText (text : String) : CodeRanges :=
  ⟨((entriesOf text).map readSpan).toArray⟩

def contains (ranges : CodeRanges) (c : Char) : Bool :=
  ranges.spans.any fun span => span.1 ≤ c.toNat && c.toNat ≤ span.2

end CodeRanges

/-- A stretch of code points at equal steps. `image` is what `first` goes to. -/
structure CodeRun where
  first : Nat
  last : Nat
  step : Nat
  image : Nat

/-- A map from code points to numbers. In an entry `41-5a:61` the images move on with the code
points; `100-12e/2:101` takes every second one; in a table of a property all code points of a
range share its value, which is what `find?` answers. -/
structure CodeRuns where
  runs : Array CodeRun

namespace CodeRuns

private def readRun (entry : List Char) : CodeRun :=
  let source := entry.takeWhile (· ≠ ':')
  let image := hexNumber ((entry.dropWhile (· ≠ ':')).drop 1)
  let span := readSpan (source.takeWhile (· ≠ '/'))
  let step := hexNumber ((source.dropWhile (· ≠ '/')).drop 1)
  ⟨span.1, span.2, if step = 0 then 1 else step, image⟩

def ofText (text : String) : CodeRuns :=
  ⟨((entriesOf text).map readRun).toArray⟩

private def run? (table : CodeRuns) (c : Char) : Option CodeRun :=
  table.runs.find? fun run =>
    run.first ≤ c.toNat && c.toNat ≤ run.last && (c.toNat - run.first) % run.step = 0

/-- The value that all code points of a range share. -/
def value? (table : CodeRuns) (c : Char) : Option Nat := (table.run? c).map (·.image)

/-- The image of a code point in a table whose images move on with the code points. -/
def image? (table : CodeRuns) (c : Char) : Option Nat :=
  (table.run? c).map fun run => run.image + (c.toNat - run.first)

end CodeRuns

end ProxyDial.Unicode
