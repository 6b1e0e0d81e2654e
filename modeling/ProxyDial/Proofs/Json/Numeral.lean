import ProxyDial.Json.Number
import ProxyDial.Proofs.Json.Spelled
import ProxyDial.Proofs.Text.Digits

set_option autoImplicit false

/-! Numbers as they may be written, in front of a text that does not go on with them. Natural
numbers are read for their value, all others are skipped. -/

namespace ProxyDial.Json
open Text

/-! ### The texts of a number -/

/-- Digits, of which there is at least one. -/
structure WritesDigits (text : List Char) : Prop where
  filled : text ≠ []
  digits : text.all Char.isDigit = true

/-- The digits in front of the point. No zero stands in front of another digit. -/
inductive WritesWhole : List Char → Prop
  | zero : WritesWhole ['0']
  | positive {first : Char} {others : List Char} (digit : first.isDigit = true)
      (notZero : first ≠ '0') (digits : others.all Char.isDigit = true) :
      WritesWhole (first :: others)

inductive WritesFraction : List Char → Prop
  | absent : WritesFraction []
  | present {text : List Char} (digits : WritesDigits text) : WritesFraction ('.' :: text)

def exponentLetters : List Char := ['e', 'E']

inductive WritesExponent : List Char → Prop
  | absent : WritesExponent []
  | present {letter : Char} {sign text : List Char} (marked : letter ∈ exponentLetters)
      (optional : sign ∈ [[], ['+'], ['-']]) (digits : WritesDigits text) :
      WritesExponent (letter :: (sign ++ text))

/-- A number without its sign. -/
inductive WritesNumber : List Char → Prop
  | parts {whole fraction exponent : List Char} (integral : WritesWhole whole)
      (fractional : WritesFraction fraction) (scaled : WritesExponent exponent) :
      WritesNumber (whole ++ (fraction ++ exponent))

/-- An integer that fits a word of 64 bits. -/
structure WritesNatural (value : Nat) (text : List Char) : Prop where
  whole : WritesWhole text
  value_eq : Nat.ofDigitChars 10 text 0 = value
  small : value < UInt64.size

theorem WritesWhole.starts {text : List Char} (writes : WritesWhole text) :
    ∃ c more, text = c :: more ∧ c.isDigit = true := by
  cases writes with
  | zero => exact ⟨'0', [], rfl, rfl⟩
  | positive digit notZero digits => exact ⟨_, _, rfl, digit⟩

theorem WritesWhole.digits {text : List Char} (writes : WritesWhole text) :
    text.all Char.isDigit = true := by
  cases writes with
  | zero => rfl
  | positive digit notZero digits => rw [List.all_cons, digit, digits]; rfl

/-- Behind digits that do not make zero there may stand another one. -/
theorem WritesWhole.append {text : List Char} {c : Char} (writes : WritesWhole text)
    (notZero : text ≠ ['0']) (digit : c.isDigit = true) : WritesWhole (text ++ [c]) := by
  cases writes with
  | zero => exact absurd rfl notZero
  | @positive _ others first different digits =>
      apply WritesWhole.positive first different
      have both : (others ++ [c]).all Char.isDigit = true := by
        rw [List.all_append, digits, List.all_cons, digit]
        rfl
      exact both

theorem writesWhole_digit {c : Char} (digit : c.isDigit = true) : WritesWhole [c] := by
  by_cases zero : c = '0'
  · rw [zero]
    exact .zero
  · exact .positive digit zero rfl

theorem writesWhole_decimalDigits (value : Nat) : WritesWhole (decimalDigits value) := by
  induction value using Nat.strongRecOn with
  | ind value ih =>
      have digit : ∀ low : Fin 10, (Nat.digitChar low.val).isDigit = true := by decide
      unfold decimalDigits
      rw [Nat.toDigits_eq_if (by decide)]
      by_cases single : value < 10
      · rw [if_pos single]
        exact writesWhole_digit (digit ⟨value, single⟩)
      · rw [if_neg single]
        have notZero : decimalDigits (value / 10) ≠ ['0'] := by
          intro zero
          have number := decimalValue_decimalDigits (value / 10)
          rw [zero] at number
          have none : decimalValue ['0'] = 0 := rfl
          omega
        have lastDigit := digit ⟨value % 10, Nat.mod_lt value (by decide)⟩
        exact (ih (value / 10) (by omega)).append notZero lastDigit

/-- The plain digits of a number that fits are one of its texts. -/
theorem writesNatural_decimalDigits {value : Nat} (small : value < UInt64.size) :
    WritesNatural value (decimalDigits value) :=
  ⟨writesWhole_decimalDigits value, Nat.ofDigitChars_toDigits (by decide) (by decide), small⟩

/-- A text that does not go on with a number that ends in front of it. -/
structure EndsNumber (rest : List Char) : Prop where
  noDigit : startsWithDigit rest = false
  noExponent : startsExponent rest = false
  noPoint : rest.head? ≠ some '.'

theorem EndsNumber.nil : EndsNumber [] := ⟨rfl, rfl, nofun⟩

/-- What may stand behind a value. -/
def marks : List Char := [',', ']', '\x7d'] ++ blanks

theorem EndsNumber.mark {c : Char} (ends : c ∈ marks) (rest : List Char) :
    EndsNumber (c :: rest) := by
  have noDigit : marks.any isDigit = false := rfl
  have noExponent : marks.any (fun mark => mark = 'e' || mark = 'E') = false := rfl
  have noPoint : '.' ∉ marks := by decide
  constructor
  · exact Bool.eq_false_iff.mpr (List.any_eq_false.mp noDigit c ends)
  · exact Bool.eq_false_iff.mpr (List.any_eq_false.mp noExponent c ends)
  · intro same
    rw [← Option.some.inj same] at noPoint
    exact noPoint ends

theorem EndsNumber.blank {blank rest : List Char} (spaces : Blank blank) (ends : EndsNumber rest) :
    EndsNumber (blank ++ rest) := by
  cases blank with
  | nil => exact ends
  | cons c others =>
      have space := spaces c List.mem_cons_self
      exact EndsNumber.mark (List.mem_append_right _ space) (others ++ rest)

/-! ### Skipping them -/

theorem startsWithDigit_cons {c : Char} (digit : c.isDigit = true) (rest : List Char) :
    startsWithDigit (c :: rest) = true :=
  (isDigit_eq c).trans digit

theorem WritesDigits.startsWithDigit {text : List Char} (writes : WritesDigits text)
    (rest : List Char) : startsWithDigit (text ++ rest) = true := by
  cases text with
  | nil => exact absurd rfl writes.filled
  | cons c others =>
      have digit := List.all_eq_true.mp writes.digits c List.mem_cons_self
      exact startsWithDigit_cons digit _

theorem skipDigits_append {digits rest : List Char} (all : digits.all Char.isDigit = true)
    (ends : startsWithDigit rest = false) : skipDigits (digits ++ rest) = rest := by
  have skipped : skipDigits (digits ++ rest) = skipDigits rest :=
    List.dropWhile_append_of_pos fun c member =>
      (isDigit_eq c).trans (List.all_eq_true.mp all c member)
  rw [skipped]
  cases rest with
  | nil => rfl
  | cons c others => exact List.dropWhile_cons_of_neg (Bool.eq_false_iff.mp ends)

theorem WritesExponent.endsDigits {exponent rest : List Char} (writes : WritesExponent exponent)
    (ends : EndsNumber rest) : startsWithDigit (exponent ++ rest) = false := by
  cases writes with
  | absent => exact ends.noDigit
  | present marked optional digits =>
      have letters : exponentLetters.any isDigit = false := rfl
      exact Bool.eq_false_iff.mpr (List.any_eq_false.mp letters _ marked)

theorem ne_of_isDigit {c mark : Char} (digit : c.isDigit = true) (other : mark.isDigit = false) :
    c ≠ mark := by
  rintro rfl
  rw [digit] at other
  cases other

theorem skipExponent_writes {letter : Char} {sign text rest : List Char}
    (optional : sign ∈ [[], ['+'], ['-']]) (digits : WritesDigits text) (ends : EndsNumber rest) :
    skipExponent (letter :: (sign ++ text) ++ rest) = .ok rest := by
  have skipped := skipDigits_append digits.digits ends.noDigit
  have found : (if startsWithDigit (text ++ rest) then .ok (skipDigits (text ++ rest))
      else .error (.here .invalidNumber (text ++ rest)) : Except Stop (List Char)) = .ok rest := by
    rw [if_pos (digits.startsWithDigit rest), skipped]
  simp only [List.mem_cons, List.not_mem_nil, or_false] at optional
  rcases optional with rfl | rfl | rfl
  · cases text with
    | nil => exact absurd rfl digits.filled
    | cons c others =>
        have digit := List.all_eq_true.mp digits.digits c List.mem_cons_self
        unfold skipExponent
        split
        next same => exact absurd (List.cons.inj same).1 (ne_of_isDigit digit rfl)
        next same => exact absurd (List.cons.inj same).1 (ne_of_isDigit digit rfl)
        next => exact found
  · exact found
  · exact found

theorem skipAfterInteger_writes {fraction exponent rest : List Char}
    (fractional : WritesFraction fraction) (scaled : WritesExponent exponent)
    (ends : EndsNumber rest) : skipAfterInteger (fraction ++ (exponent ++ rest)) = .ok rest := by
  have behind : (if startsExponent (exponent ++ rest) then skipExponent (exponent ++ rest)
      else .ok (exponent ++ rest)) = .ok rest := by
    cases scaled with
    | absent => rw [List.nil_append, if_neg (Bool.eq_false_iff.mp ends.noExponent)]
    | @present letter sign text marked optional digits =>
        have letters : exponentLetters.all (fun letter => letter = 'e' || letter = 'E') = true :=
          rfl
        have starts : startsExponent (letter :: (sign ++ text) ++ rest) = true :=
          List.all_eq_true.mp letters _ marked
        rw [if_pos starts, skipExponent_writes optional digits ends]
  unfold skipAfterInteger
  cases fractional with
  | absent =>
      have noPoint : (exponent ++ rest).head? ≠ some '.' := by
        cases scaled with
        | absent => exact ends.noPoint
        | present marked optional digits =>
            have noPoint : '.' ∉ exponentLetters := by decide
            intro same
            rw [← Option.some.inj same] at noPoint
            exact noPoint marked
      rw [List.nil_append, if_neg noPoint, behind]
  | present digits =>
      have skipped := skipDigits_append digits.digits (scaled.endsDigits ends)
      have starts := digits.startsWithDigit (exponent ++ rest)
      rw [List.cons_append, List.head?_cons, if_pos rfl, List.drop_one, List.tail_cons]
      simp only [starts, skipped, Bool.not_true, Bool.false_eq_true, if_false]
      exact behind

/-- The text behind the integral part does not go on with it. -/
theorem startsWithDigit_behind {fraction exponent rest : List Char}
    (fractional : WritesFraction fraction) (scaled : WritesExponent exponent)
    (ends : EndsNumber rest) : startsWithDigit (fraction ++ (exponent ++ rest)) = false := by
  cases fractional with
  | absent => exact scaled.endsDigits ends
  | present digits => rfl

theorem skipNumber_writes {text rest : List Char} (writes : WritesNumber text)
    (ends : EndsNumber rest) : skipNumber (text ++ rest) = .ok rest := by
  cases writes with
  | @parts whole fraction exponent integral fractional scaled =>
      have apart := startsWithDigit_behind fractional scaled ends
      have behind := skipAfterInteger_writes fractional scaled ends
      rw [List.append_assoc, List.append_assoc]
      cases integral with
      | zero =>
          rw [List.singleton_append, skipNumber, if_neg (by decide), apart]
          exact behind
      | @positive first others digit notZero digits =>
          have isDigit : ¬ (!isDigit first) = true := by simp [isDigit_eq, digit]
          have noZero : ¬ (decide (first = '0') && startsWithDigit (others ++ (fraction ++
              (exponent ++ rest)))) = true := by
            simp [notZero]
          rw [List.cons_append, skipNumber, if_neg isDigit, if_neg noZero, if_neg notZero,
            skipDigits_append digits apart, behind]

/-! ### Reading natural numbers -/

theorem le_ofDigitChars (digits : List Char) (value : Nat) :
    value ≤ Nat.ofDigitChars 10 digits value := by
  induction digits generalizing value with
  | nil => exact Nat.le_refl value
  | cons c others ih =>
      have more := ih (10 * value + (c.toNat - '0'.toNat))
      rw [Nat.ofDigitChars_cons]
      omega

theorem takeDigits_append {digits rest : List Char} (all : digits.all Char.isDigit = true)
    (ends : startsWithDigit rest = false) (value : Nat)
    (small : Nat.ofDigitChars 10 digits value < UInt64.size) :
    takeDigits value (digits ++ rest) = (Nat.ofDigitChars 10 digits value, rest) := by
  induction digits generalizing value with
  | nil =>
      cases rest with
      | nil => rfl
      | cons c others =>
          have noDigit : isDigit c = false := ends
          rw [List.nil_append, takeDigits, noDigit]
          rfl
  | cons c others ih =>
      rw [Nat.ofDigitChars_cons] at small ⊢
      rw [List.all_cons, Bool.and_eq_true] at all
      have digit : isDigit c = true := (isDigit_eq c).trans all.1
      have bound : 10 * value + digitValue c < wordBound :=
        Nat.lt_of_le_of_lt (le_ofDigitChars others _) small
      have fits : (isDigit c && decide (10 * value + digitValue c < wordBound)) = true := by
        rw [digit, decide_eq_true bound]
        rfl
      rw [List.cons_append, takeDigits, if_pos fits]
      exact ih all.2 _ small

theorem readNumber_natural {value : Nat} {text rest : List Char} (writes : WritesNatural value text)
    (ends : EndsNumber rest) : readNumber true (text ++ rest) = .ok (.natural value, rest) := by
  obtain ⟨whole, rfl, small⟩ := writes
  have stops : ¬ (decide (rest.head? = some '.') || startsExponent rest) = true := by
    simp [ends.noPoint, ends.noExponent]
  have finished (number : Nat) : (if startsWithDigit rest then
        readAfterInteger true number (rest.takeWhile isDigit).length (skipDigits rest)
      else if rest.head? = some '.' || startsExponent rest then readAfterInteger true number 0 rest
      else .ok (integer true number, rest)) = .ok (.natural number, rest) := by
    rw [if_neg (Bool.eq_false_iff.mp ends.noDigit), if_neg stops]
    rfl
  cases whole with
  | zero =>
      rw [List.singleton_append, readNumber, if_neg (by decide), ends.noDigit]
      exact finished 0
  | @positive first others digit notZero digits =>
      have isDigit : ¬ (!isDigit first) = true := by simp [isDigit_eq, digit]
      have noZero : ¬ (decide (first = '0') && startsWithDigit (others ++ rest)) = true := by
        simp [notZero]
      have all := (WritesWhole.positive digit notZero digits).digits
      have taken := takeDigits_append all ends.noDigit 0 small
      rw [List.cons_append] at taken ⊢
      rw [readNumber, if_neg isDigit, if_neg noZero, if_neg notZero, taken]
      exact finished _

end ProxyDial.Json
