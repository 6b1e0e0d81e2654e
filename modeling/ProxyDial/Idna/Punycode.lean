set_option autoImplicit false

/-! Punycode (RFC 3492): a label of any characters written with letters, digits and hyphens. The
ASCII characters come first; the others follow as steps of a walk over all code points and all
places, each step a number of variable length in base 36. -/

namespace ProxyDial.Idna.Punycode

/-- Labels with more characters are not encoded. -/
def encodeLimit : Nat := 1000

/-- Encoded labels with more characters are not decoded. -/
def decodeLimit : Nat := 2000

def digitChar (value : Nat) : Char :=
  if value < 26 then Char.ofNat ('a'.toNat + value) else Char.ofNat ('0'.toNat + value - 26)

def digitValue? (c : Char) : Option Nat :=
  if 'a' ≤ c ∧ c ≤ 'z' then some (c.toNat - 'a'.toNat)
  else if 'A' ≤ c ∧ c ≤ 'Z' then some (c.toNat - 'A'.toNat)
  else if '0' ≤ c ∧ c ≤ '9' then some (c.toNat - '0'.toNat + 26)
  else none

/-- The digit values below which a number ends, at the place `36 * k`. -/
def threshold (place bias : Nat) : Nat :=
  if place ≤ bias then 1 else if bias + 26 ≤ place then 26 else place - bias

theorem threshold_pos (place bias : Nat) : 1 ≤ threshold place bias := by
  unfold threshold
  split
  · omega
  · split <;> omega

theorem threshold_le (place bias : Nat) : threshold place bias ≤ 26 := by
  unfold threshold
  split
  · omega
  · split <;> omega

def shrink (delta place : Nat) : Nat × Nat :=
  if 455 < delta then shrink (delta / 35) (place + 36) else (delta, place)
termination_by delta
decreasing_by exact Nat.div_lt_self (by omega) (by omega)

/-- The bias after a step of `delta` that makes the text `points` characters long. -/
def adapt (delta points : Nat) (first : Bool) : Nat :=
  let damped := if first then delta / 700 else delta / 2
  let shrunk := shrink (damped + damped / points) 0
  shrunk.2 + 36 * shrunk.1 / (shrunk.1 + 38)

/-- The digits of one step. -/
def stepDigits (bias place delta : Nat) : List Char :=
  let limit := threshold place bias
  if delta < limit then [digitChar delta]
  else
    digitChar (limit + (delta - limit) % (36 - limit)) ::
      stepDigits bias (place + 36) ((delta - limit) / (36 - limit))
termination_by delta
decreasing_by
  have := threshold_pos place bias
  have := threshold_le place bias
  calc (delta - threshold place bias) / (36 - threshold place bias)
      ≤ delta - threshold place bias := Nat.div_le_self _ _
    _ < delta := by omega

structure Encoding where
  output : List Char
  delta : Nat
  bias : Nat
  handled : Nat

def encodeChar (basic point : Nat) (state : Encoding) (c : Char) : Encoding :=
  if c.toNat < point then { state with delta := state.delta + 1 }
  else if c.toNat = point then
    { output := state.output ++ stepDigits state.bias 36 state.delta
      delta := 0
      bias := adapt state.delta (state.handled + 1) (state.handled = basic)
      handled := state.handled + 1 }
  else state

/-- Puts in the characters of one code point after the other, in rising order. -/
def encodePoints (label : List Char) (basic : Nat) :
    (points : List Nat) → (next : Nat) → Encoding → Encoding
  | [], _, state => state
  | point :: rest, next, state =>
      let moved := { state with delta := state.delta + (point - next) * (state.handled + 1) }
      let placed := label.foldl (encodeChar basic point) moved
      encodePoints label basic rest (point + 1) { placed with delta := placed.delta + 1 }

def insertPoint (point : Nat) : List Nat → List Nat
  | [] => [point]
  | first :: rest =>
      if point < first then point :: first :: rest
      else if point = first then first :: rest
      else first :: insertPoint point rest

/-- The encoding of a label, without the `xn--` before it. -/
def encode (label : List Char) : List Char :=
  let basic := label.filter (·.toNat < 0x80)
  let points := (label.filter (0x80 ≤ ·.toNat)).foldr (fun c => insertPoint c.toNat) []
  let start := if basic.isEmpty then [] else basic ++ ['-']
  (encodePoints label basic.length points 0x80 ⟨start, 0, 72, basic.length⟩).output

/-- Reads one step. `weight` is what a digit counts at `place`. -/
def readStep (bias : Nat) : (input : List Char) → (place weight value : Nat) →
    Option (Nat × List Char)
  | [], _, _, _ => none
  | c :: rest, place, weight, value =>
      match digitValue? c with
      | none => none
      | some digit =>
          let total := value + digit * weight
          let limit := threshold place bias
          if digit < limit then some (total, rest)
          else readStep bias rest (place + 36) (weight * (36 - limit)) total

private theorem readStep_shorter {bias place weight value total : Nat} {input rest : List Char}
    (read : readStep bias input place weight value = some (total, rest)) :
    rest.length < input.length := by
  induction input generalizing place weight value with
  | nil => simp [readStep] at read
  | cons c tail ih =>
      simp only [readStep] at read
      split at read
      · simp at read
      · split at read
        · obtain ⟨_, rfl⟩ := by simpa using read
          simp
        · exact Nat.lt_trans (ih read) (by simp)

def isScalar (point : Nat) : Bool :=
  point < 0xd800 || 0xdfff < point && point < 0x110000

def decodeSteps (input : List Char) (point place bias : Nat) (output : List Char) :
    Option (List Char) :=
  match input with
  | [] => some output
  | c :: tail =>
      match read : readStep bias (c :: tail) 36 1 place with
      | none => none
      | some (total, rest) =>
          let points := output.length + 1
          let reached := point + total / points
          if isScalar reached then
            have : rest.length < (c :: tail).length := readStep_shorter read
            decodeSteps rest reached (total % points + 1) (adapt (total - place) points (place = 0))
              (output.insertIdx (total % points) (Char.ofNat reached))
          else none
termination_by input.length
decreasing_by exact this

/-- The label that an encoding (without its `xn--`) stands for. -/
def decode? (encoded : List Char) : Option (List Char) :=
  let after := encoded.reverse.takeWhile (· ≠ '-')
  let basic := (encoded.take (encoded.length - after.length)).dropLast
  let steps := if basic.isEmpty then encoded else after.reverse
  if basic.all (·.toNat < 0x80) then decodeSteps steps 0x80 0 72 basic else none

end ProxyDial.Idna.Punycode
