import Mathlib.Data.List.Forall2
import ProxyDial.Json.Literal
import ProxyDial.Proofs.Text.Hex

set_option autoImplicit false

/-! The texts that stand for a string. Every character may be written as it is or as an escape, and
all that is written in such a way is read back. A string that is skipped may hold escapes that stand
for no character. -/

namespace ProxyDial.Json
open Text

/-! ### Blanks -/

def blanks : List Char := [' ', '\t', '\n', '\r']

/-- What may stand between the parts of a text. -/
def Blank (text : List Char) : Prop := ∀ c ∈ text, c ∈ blanks

theorem Blank.nil : Blank [] := fun _ none => absurd none List.not_mem_nil

theorem Blank.single {c : Char} (known : c ∈ blanks) : Blank [c] := by
  intro other member
  rw [List.mem_singleton.mp member]
  exact known

theorem Blank.isSpace {text : List Char} (blank : Blank text) {c : Char} (member : c ∈ text) :
    Json.isSpace c = true := by
  have all : blanks.all Json.isSpace = true := rfl
  exact List.all_eq_true.mp all c (blank c member)

theorem skipSpace_append {blank : List Char} (spaces : Blank blank) (rest : List Char) :
    skipSpace (blank ++ rest) = skipSpace rest :=
  List.dropWhile_append_of_pos fun _ member => spaces.isSpace member

theorem skipSpace_cons {c : Char} (visible : isSpace c = false) (rest : List Char) :
    skipSpace (c :: rest) = c :: rest :=
  List.dropWhile_cons_of_neg (by simp [visible])

/-- Behind blanks a text is found at its first character. -/
theorem skipSpace_blank {blank : List Char} {c : Char} (spaces : Blank blank)
    (visible : isSpace c = false) (rest : List Char) :
    skipSpace (blank ++ c :: rest) = c :: rest := by
  rw [skipSpace_append spaces, skipSpace_cons visible]

/-! ### Characters and strings -/

structure WritesHexDigit (value : Nat) (c : Char) : Prop where
  small : value < 16
  written : c = Nat.digitChar value ∨ c = (Nat.digitChar value).toUpper

instance (value : Nat) (c : Char) : Decidable (WritesHexDigit value c) :=
  decidable_of_iff (value < 16 ∧ (c = Nat.digitChar value ∨ c = (Nat.digitChar value).toUpper))
    ⟨fun both => ⟨both.1, both.2⟩, fun digit => ⟨digit.small, digit.written⟩⟩

/-- The four hexadecimal digits of a number, each in either case. -/
def WritesUnit (unit : Nat) (text : List Char) : Prop :=
  List.Forall₂ WritesHexDigit
    [unit / 0x1000, unit / 0x100 % 0x10, unit / 0x10 % 0x10, unit % 0x10] text

instance (unit : Nat) (text : List Char) : Decidable (WritesUnit unit text) :=
  inferInstanceAs (Decidable (List.Forall₂ WritesHexDigit _ text))

/-- The letters that stand for a character when they follow a backslash. -/
def shortEscapes : List (Char × Char) :=
  [('"', '"'), ('\\', '\\'), ('/', '/'), ('b', '\x08'), ('f', '\x0c'), ('n', '\n'), ('r', '\r'),
    ('t', '\t')]

/-- Characters that stand for themselves in a string. -/
def isPlain (c : Char) : Bool := c ≠ '"' && c ≠ '\\' && 0x20 ≤ c.toNat

/-- The texts that write a character within a string. -/
inductive WritesChar (c : Char) : List Char → Prop
  | plain (plain : isPlain c = true) : WritesChar c [c]
  | short {letter : Char} (known : (letter, c) ∈ shortEscapes) : WritesChar c ['\\', letter]
  | unit {digits : List Char} (writes : WritesUnit c.toNat digits) :
      WritesChar c ('\\' :: 'u' :: digits)
  /-- A character beyond sixteen bits is a pair of surrogates. -/
  | pair {high low : List Char} (beyond : 0x10000 ≤ c.toNat)
      (first : WritesUnit (0xd800 + (c.toNat - 0x10000) / 0x400) high)
      (second : WritesUnit (0xdc00 + (c.toNat - 0x10000) % 0x400) low) :
      WritesChar c ('\\' :: 'u' :: (high ++ '\\' :: 'u' :: low))

inductive WritesChars : List Char → List Char → Prop
  | nil : WritesChars [] []
  | cons {c : Char} {chars part text : List Char} (first : WritesChar c part)
      (others : WritesChars chars text) : WritesChars (c :: chars) (part ++ text)

/-- The texts that write a string, with its quotes. -/
inductive WritesString (value : String) : List Char → Prop
  | quoted {body : List Char} (chars : WritesChars value.toList body) :
      WritesString value ('"' :: (body ++ ['"']))

theorem WritesChars.plain {chars : List Char} (plain : chars.all isPlain = true) :
    WritesChars chars chars := by
  induction chars with
  | nil => exact .nil
  | cons c others ih =>
      rw [List.all_cons, Bool.and_eq_true] at plain
      exact .cons (.plain plain.1) (ih plain.2)

/-- A string that needs no escape. -/
theorem WritesString.plain {value : String} (plain : value.toList.all isPlain = true) :
    WritesString value ('"' :: (value.toList ++ ['"'])) :=
  .quoted (.plain plain)

theorem exists_writesUnit {unit : Nat} (small : unit < 0x10000) :
    ∃ digits, WritesUnit unit digits := by
  have digit {value : Nat} (low : value < 16) : WritesHexDigit value (Nat.digitChar value) :=
    ⟨low, .inl rfl⟩
  exact ⟨_, .cons (digit (by omega)) (.cons (digit (by omega)) (.cons (digit (by omega))
    (.cons (digit (by omega)) .nil)))⟩

theorem exists_writesChar (c : Char) : ∃ text, WritesChar c text := by
  by_cases plain : isPlain c = true
  · exact ⟨[c], .plain plain⟩
  · have small : c.toNat < 0x10000 := by
      simp only [isPlain, Bool.and_eq_true, decide_eq_true_eq, not_and_or, Classical.not_not]
        at plain
      rcases plain with (rfl | rfl) | control
      · decide
      · decide
      · omega
    obtain ⟨digits, writes⟩ := exists_writesUnit small
    exact ⟨_, .unit writes⟩

theorem exists_writesString (value : String) : ∃ text, WritesString value text := by
  have body (chars : List Char) : ∃ text, WritesChars chars text := by
    induction chars with
    | nil => exact ⟨[], .nil⟩
    | cons c others ih =>
        obtain ⟨part, first⟩ := exists_writesChar c
        obtain ⟨text, behind⟩ := ih
        exact ⟨part ++ text, .cons first behind⟩
  obtain ⟨text, chars⟩ := body value.toList
  exact ⟨_, .quoted chars⟩

/-! ### Reading them -/

theorem hexDigitValue?_written {value : Nat} {c : Char} (digit : WritesHexDigit value c) :
    hexDigitValue? c = some value := by
  have upper : ∀ number : Fin 16,
      hexDigitValue? (Nat.digitChar number.val).toUpper = some number.val := by
    decide
  rcases digit.written with rfl | rfl
  · exact hexDigitValue?_digitChar digit.small
  · exact upper ⟨value, digit.small⟩

theorem mapM_hexDigitValue? {values : List Nat} {text : List Char}
    (writes : List.Forall₂ WritesHexDigit values text) :
    text.mapM hexDigitValue? = some values := by
  induction writes with
  | nil => rfl
  | cons digit _ ih => rw [List.mapM_cons, hexDigitValue?_written digit, ih]; rfl

theorem length_le_byteCount (text : List Char) : text.length ≤ byteCount text := by
  have counted (count : Nat) :
      count + text.length ≤ text.foldl (fun total c => total + c.utf8Size) count := by
    induction text generalizing count with
    | nil => exact Nat.le_refl _
    | cons c rest ih =>
        have more := ih (count + c.utf8Size)
        have size := c.utf8Size_pos
        simp only [List.length_cons, List.foldl_cons]
        omega
  have whole := counted 0
  rwa [Nat.zero_add] at whole

theorem WritesUnit.length_eq {unit : Nat} {digits : List Char} (writes : WritesUnit unit digits) :
    digits.length = 4 :=
  (List.Forall₂.length_eq writes).symm

theorem readHex_writes {unit : Nat} {digits : List Char} (writes : WritesUnit unit digits)
    (rest : List Char) : readHex (digits ++ rest) = .ok (unit, rest) := by
  have four := writes.length_eq
  have enough : ¬ byteCount (digits ++ rest) < 4 := by
    have long := length_le_byteCount (digits ++ rest)
    rw [List.length_append] at long
    omega
  have taken : (digits ++ rest).take 4 = digits := List.take_left' four
  have left : (digits ++ rest).drop 4 = rest := List.drop_left' four
  have number : [unit / 0x1000, unit / 0x100 % 0x10, unit / 0x10 % 0x10, unit % 0x10].foldl
      (fun value digit => 16 * value + digit) 0 = unit := by
    simp only [List.foldl_cons, List.foldl_nil]
    omega
  unfold readHex
  rw [if_neg enough, taken, left, mapM_hexDigitValue? writes]
  exact congrArg (fun value => Except.ok (value, rest)) number

/-- No character has the number of a surrogate. -/
theorem toNat_range (c : Char) :
    c.toNat < 0xd800 ∨ 0xdfff < c.toNat ∧ c.toNat < 0x110000 :=
  c.valid

theorem not_isLeading_toNat (c : Char) : isLeading c.toNat = false := by
  have range := toNat_range c
  unfold isLeading
  simp only [Bool.and_eq_false_iff, decide_eq_false_iff_not]
  omega

theorem not_isTrailing_toNat (c : Char) : isTrailing c.toNat = false := by
  have range := toNat_range c
  unfold isTrailing
  simp only [Bool.and_eq_false_iff, decide_eq_false_iff_not]
  omega

theorem readCodeUnit_unit {c : Char} {digits : List Char} (writes : WritesUnit c.toNat digits)
    (rest : List Char) : readCodeUnit (digits ++ rest) = .ok (c, rest) := by
  unfold readCodeUnit
  rw [readHex_writes writes]
  simp only [bind, Except.bind, not_isTrailing_toNat, not_isLeading_toNat, Char.ofNat_toNat]
  rfl

theorem readCodeUnit_surrogates {unit other : Nat} {high low : List Char}
    (first : WritesUnit unit high) (second : WritesUnit other low) (leading : isLeading unit = true)
    (trailing : isTrailing other = true) (rest : List Char) :
    readCodeUnit (high ++ '\\' :: 'u' :: (low ++ rest)) =
      .ok (Char.ofNat ((unit - 0xd800) * 0x400 + (other - 0xdc00) + 0x10000), rest) := by
  have notTrailing : isTrailing unit = false := by
    unfold isLeading at leading
    unfold isTrailing
    simp only [Bool.and_eq_true, decide_eq_true_eq] at leading
    simp only [Bool.and_eq_false_iff, decide_eq_false_iff_not]
    omega
  have marks (text : List Char) : (readMark '\\' ('\\' :: 'u' :: text)) = .ok ('u' :: text) := rfl
  have letter (text : List Char) : (readMark 'u' ('u' :: text)) = .ok text := rfl
  unfold readCodeUnit
  rw [readHex_writes first]
  simp only [bind, Except.bind, notTrailing, leading, if_true, Bool.false_eq_true, if_false, marks,
    letter, readHex_writes second, trailing, pure, Except.pure]

theorem readCodeUnit_pair {c : Char} {high low : List Char} (beyond : 0x10000 ≤ c.toNat)
    (first : WritesUnit (0xd800 + (c.toNat - 0x10000) / 0x400) high)
    (second : WritesUnit (0xdc00 + (c.toNat - 0x10000) % 0x400) low) (rest : List Char) :
    readCodeUnit (high ++ '\\' :: 'u' :: (low ++ rest)) = .ok (c, rest) := by
  have range := toNat_range c
  have leading : isLeading (0xd800 + (c.toNat - 0x10000) / 0x400) = true := by
    unfold isLeading
    simp only [Bool.and_eq_true, decide_eq_true_eq]
    omega
  have trailing : isTrailing (0xdc00 + (c.toNat - 0x10000) % 0x400) = true := by
    unfold isTrailing
    simp only [Bool.and_eq_true, decide_eq_true_eq]
    omega
  have number : (0xd800 + (c.toNat - 0x10000) / 0x400 - 0xd800) * 0x400 +
      (0xdc00 + (c.toNat - 0x10000) % 0x400 - 0xdc00) + 0x10000 = c.toNat := by
    omega
  rw [readCodeUnit_surrogates first second leading trailing, number, Char.ofNat_toNat]

theorem readEscape_short {letter c : Char} (known : (letter, c) ∈ shortEscapes)
    (rest : List Char) : readEscape (letter :: rest) = .ok (c, rest) := by
  simp only [shortEscapes, List.mem_cons, Prod.mk.injEq, List.not_mem_nil, or_false] at known
  rcases known with ⟨rfl, rfl⟩ | ⟨rfl, rfl⟩ | ⟨rfl, rfl⟩ | ⟨rfl, rfl⟩ | ⟨rfl, rfl⟩ | ⟨rfl, rfl⟩ |
    ⟨rfl, rfl⟩ | ⟨rfl, rfl⟩ <;> rfl

theorem readChars_backslash {c : Char} {part rest : List Char} (room : Nat)
    (escape : readEscape part = .ok (c, rest)) :
    readChars (room + 1) ('\\' :: part) = do
      let (more, rest) ← readChars room rest
      return (c :: more, rest) := by
  rw [readChars, if_neg (by decide), if_pos rfl, escape]
  rfl

theorem facts_of_isPlain {c : Char} (plain : isPlain c = true) :
    c ≠ '"' ∧ c ≠ '\\' ∧ ¬ isControlCharacter c = true := by
  simp only [isPlain, Bool.and_eq_true, decide_eq_true_eq] at plain
  refine ⟨plain.1.1, plain.1.2, ?_⟩
  unfold isControlCharacter
  simpa using plain.2

theorem readChars_writes_char {c : Char} {part : List Char} (writes : WritesChar c part)
    (room : Nat) (rest : List Char) :
    readChars (room + 1) (part ++ rest) = do
      let (more, rest) ← readChars room rest
      return (c :: more, rest) := by
  cases writes with
  | plain plain =>
      obtain ⟨noQuote, noBackslash, visible⟩ := facts_of_isPlain plain
      rw [List.singleton_append, readChars, if_neg noQuote, if_neg noBackslash, if_neg visible]
  | short known => exact readChars_backslash room (readEscape_short known rest)
  | unit digits => exact readChars_backslash room (readCodeUnit_unit digits rest)
  | @pair high low beyond first second =>
      have split : '\\' :: 'u' :: (high ++ '\\' :: 'u' :: low) ++ rest =
          '\\' :: 'u' :: (high ++ '\\' :: 'u' :: (low ++ rest)) := by
        simp only [List.cons_append, List.append_assoc]
      rw [split]
      exact readChars_backslash room (readCodeUnit_pair beyond first second rest)

theorem WritesChar.length_pos {c : Char} {part : List Char} (writes : WritesChar c part) :
    0 < part.length := by
  cases writes <;> simp

theorem readChars_writes {chars text : List Char} (writes : WritesChars chars text) {room : Nat}
    (enough : text.length < room) (rest : List Char) :
    readChars room (text ++ '"' :: rest) = .ok (chars, rest) := by
  obtain ⟨room, rfl⟩ := Nat.exists_eq_succ_of_ne_zero (Nat.ne_zero_of_lt enough)
  induction writes generalizing room with
  | nil => rfl
  | cons first others ih =>
      have positive := first.length_pos
      rw [List.length_append] at enough
      obtain ⟨less, rfl⟩ := Nat.exists_eq_succ_of_ne_zero (show room ≠ 0 by omega)
      rw [List.append_assoc, readChars_writes_char first, ih less (by omega)]
      rfl

/-- However a string is written, it is read behind its opening quote. -/
theorem readString_writes {value : String} {body : List Char}
    (writes : WritesChars value.toList body) (rest : List Char) :
    readString (body ++ '"' :: rest) = .ok (value, rest) := by
  have enough : body.length < (body ++ '"' :: rest).length + 1 := by
    rw [List.length_append]
    omega
  unfold readString
  rw [readChars_writes writes enough]
  exact congrArg (fun found => Except.ok (found, rest)) String.ofList_toList

/-! ### Skipping them -/

/-- A piece of a string that nobody asks for. Any four digits make an escape. -/
inductive LegalPiece : List Char → Prop
  | plain {c : Char} (plain : isPlain c = true) : LegalPiece [c]
  | short {letter c : Char} (known : (letter, c) ∈ shortEscapes) : LegalPiece ['\\', letter]
  | unit {number : Nat} {digits : List Char} (writes : WritesUnit number digits) :
      LegalPiece ('\\' :: 'u' :: digits)

inductive LegalChars : List Char → Prop
  | nil : LegalChars []
  | cons {part text : List Char} (first : LegalPiece part) (others : LegalChars text) :
      LegalChars (part ++ text)

theorem skipEscape_short {letter c : Char} (known : (letter, c) ∈ shortEscapes)
    (rest : List Char) : skipEscape (letter :: rest) = .ok rest := by
  simp only [shortEscapes, List.mem_cons, Prod.mk.injEq, List.not_mem_nil, or_false] at known
  rcases known with ⟨rfl, -⟩ | ⟨rfl, -⟩ | ⟨rfl, -⟩ | ⟨rfl, -⟩ | ⟨rfl, -⟩ | ⟨rfl, -⟩ |
    ⟨rfl, -⟩ | ⟨rfl, -⟩ <;> rfl

theorem skipEscape_unit {number : Nat} {digits : List Char} (writes : WritesUnit number digits)
    (rest : List Char) : skipEscape ('u' :: (digits ++ rest)) = .ok rest := by
  rw [skipEscape, readHex_writes writes]
  rfl

theorem skipChars_backslash {part rest : List Char} (room : Nat)
    (escape : skipEscape part = .ok rest) :
    skipChars (room + 1) ('\\' :: part) = skipChars room rest := by
  rw [skipChars, if_neg (by decide), if_pos rfl, escape]
  rfl

theorem skipChars_piece {part : List Char} (legal : LegalPiece part) (room : Nat)
    (rest : List Char) : skipChars (room + 1) (part ++ rest) = skipChars room rest := by
  cases legal with
  | plain plain =>
      obtain ⟨noQuote, noBackslash, visible⟩ := facts_of_isPlain plain
      rw [List.singleton_append, skipChars, if_neg noQuote, if_neg noBackslash, if_neg visible]
  | short known => exact skipChars_backslash room (skipEscape_short known rest)
  | unit digits => exact skipChars_backslash room (skipEscape_unit digits rest)

theorem LegalPiece.length_pos {part : List Char} (legal : LegalPiece part) : 0 < part.length := by
  cases legal <;> simp

theorem skipChars_legal {text : List Char} (legal : LegalChars text) {room : Nat}
    (enough : text.length < room) (rest : List Char) :
    skipChars room (text ++ '"' :: rest) = .ok rest := by
  obtain ⟨room, rfl⟩ := Nat.exists_eq_succ_of_ne_zero (Nat.ne_zero_of_lt enough)
  induction legal generalizing room with
  | nil => rfl
  | cons first others ih =>
      have positive := first.length_pos
      rw [List.length_append] at enough
      obtain ⟨less, rfl⟩ := Nat.exists_eq_succ_of_ne_zero (show room ≠ 0 by omega)
      rw [List.append_assoc, skipChars_piece first, ih less (by omega)]

theorem skipString_legal {body : List Char} (legal : LegalChars body) (rest : List Char) :
    skipString (body ++ '"' :: rest) = .ok rest := by
  unfold skipString
  apply skipChars_legal legal
  rw [List.length_append]
  omega

end ProxyDial.Json
