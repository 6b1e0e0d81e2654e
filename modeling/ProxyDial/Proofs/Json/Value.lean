import ProxyDial.Json.Skip
import ProxyDial.Proofs.Json.Numeral

set_option autoImplicit false

/-! Values of any kind as they may be written, with brackets in brackets to any depth. Such a value
is skipped up to its end, in front of any text that does not go on with it. -/

namespace ProxyDial.Json
open Text

/-! ### The texts of a value -/

/-- Values without brackets. -/
inductive WritesScalar : List Char → Prop
  | word {letters : List Char}
      (known : letters ∈ [['n', 'u', 'l', 'l'], ['t', 'r', 'u', 'e'], ['f', 'a', 'l', 's', 'e']]) :
      WritesScalar letters
  | positive {text : List Char} (number : WritesNumber text) : WritesScalar text
  | negative {text : List Char} (number : WritesNumber text) : WritesScalar ('-' :: text)
  | string {body : List Char} (legal : LegalChars body) : WritesScalar ('"' :: (body ++ ['"']))

def Bracket.opening : Bracket → Char
  | list => '['
  | object => '\x7b'

def Bracket.closing : Bracket → Char
  | list => ']'
  | object => '\x7d'

/-- What stands in front of a value between brackets: in an object, the key and its colon. -/
inductive WritesLead : Bracket → List Char → Prop
  | entry : WritesLead .list []
  | key {before body behind : List Char} (front : Blank before) (legal : LegalChars body)
      (back : Blank behind) :
      WritesLead .object (before ++ '"' :: (body ++ '"' :: (behind ++ [':'])))

inductive Part
  | value
  /-- All that stands between two brackets, where that is not nothing. -/
  | inside (bracket : Bracket)

/-- The texts that are a value, or stand between brackets of one. -/
inductive WritesPart : Part → List Char → Prop
  | scalar {text : List Char} (scalar : WritesScalar text) : WritesPart .value text
  | empty {blank : List Char} (bracket : Bracket) (spaces : Blank blank) :
      WritesPart .value (bracket.opening :: (blank ++ [bracket.closing]))
  | filled {bracket : Bracket} {text : List Char} (inside : WritesPart (.inside bracket) text) :
      WritesPart .value (bracket.opening :: (text ++ [bracket.closing]))
  | last {bracket : Bracket} {lead before text behind : List Char} (leads : WritesLead bracket lead)
      (front : Blank before) (value : WritesPart .value text) (back : Blank behind) :
      WritesPart (.inside bracket) (lead ++ (before ++ (text ++ behind)))
  | more {bracket : Bracket} {lead before text behind others : List Char}
      (leads : WritesLead bracket lead) (front : Blank before) (value : WritesPart .value text)
      (back : Blank behind) (inside : WritesPart (.inside bracket) others) :
      WritesPart (.inside bracket) (lead ++ (before ++ (text ++ (behind ++ ',' :: others))))

/-! ### How they start -/

/-- The characters that a value without brackets starts with. -/
def scalarStarts : List Char :=
  ['n', 't', 'f', '-', '"', '0', '1', '2', '3', '4', '5', '6', '7', '8', '9']

/-- The characters that a value starts with. -/
def valueStarts : List Char := scalarStarts ++ ['[', '\x7b']

theorem mem_scalarStarts_of_isDigit {c : Char} (digit : c.isDigit = true) : c ∈ scalarStarts := by
  obtain ⟨number, rfl⟩ := exists_of_isDigit digit
  revert number
  decide

theorem opens?_scalarStarts {c : Char} (start : c ∈ scalarStarts) : opens? c = none := by
  have all : scalarStarts.all (fun other => (opens? other).isNone) = true := rfl
  exact Option.isNone_iff_eq_none.mp (List.all_eq_true.mp all c start)

theorem isSpace_valueStarts {c : Char} (start : c ∈ valueStarts) : isSpace c = false := by
  have none : valueStarts.any isSpace = false := rfl
  exact Bool.eq_false_iff.mpr (List.any_eq_false.mp none c start)

theorem WritesNumber.starts {text : List Char} (writes : WritesNumber text) :
    ∃ c more, text = c :: more ∧ c.isDigit = true := by
  cases writes with
  | parts integral fractional scaled =>
      obtain ⟨c, more, rfl, digit⟩ := integral.starts
      exact ⟨c, _, rfl, digit⟩

theorem WritesScalar.starts {text : List Char} (writes : WritesScalar text) :
    ∃ c more, text = c :: more ∧ c ∈ scalarStarts := by
  cases writes with
  | word known =>
      simp only [List.mem_cons, List.not_mem_nil, or_false] at known
      rcases known with rfl | rfl | rfl
      · exact ⟨'n', _, rfl, by decide⟩
      · exact ⟨'t', _, rfl, by decide⟩
      · exact ⟨'f', _, rfl, by decide⟩
  | positive number =>
      obtain ⟨c, more, rfl, digit⟩ := number.starts
      exact ⟨c, more, rfl, mem_scalarStarts_of_isDigit digit⟩
  | negative number => exact ⟨'-', _, rfl, by decide⟩
  | string legal => exact ⟨'"', _, rfl, by decide⟩

theorem WritesPart.starts {text : List Char} (writes : WritesPart .value text) :
    ∃ c more, text = c :: more ∧ c ∈ valueStarts := by
  cases writes with
  | scalar scalar =>
      obtain ⟨c, more, rfl, start⟩ := scalar.starts
      exact ⟨c, more, rfl, List.mem_append_left _ start⟩
  | empty bracket spaces => cases bracket <;> exact ⟨_, _, rfl, by decide⟩
  | @filled bracket _ inside => cases bracket <;> exact ⟨_, _, rfl, by decide⟩

/-- Between brackets something other than their end comes first. -/
theorem WritesPart.starts_inside {bracket : Bracket} {text : List Char}
    (writes : WritesPart (.inside bracket) text) :
    ∃ blank c more, text = blank ++ c :: more ∧ Blank blank ∧ isSpace c = false ∧
      isClosedBy bracket c = false := by
  have first {lead before text : List Char} (rest : List Char) (leads : WritesLead bracket lead)
      (front : Blank before) (value : WritesPart .value text) :
      ∃ blank c more, lead ++ (before ++ (text ++ rest)) = blank ++ c :: more ∧ Blank blank ∧
        isSpace c = false ∧ isClosedBy bracket c = false := by
    cases leads with
    | entry =>
        obtain ⟨c, more, rfl, start⟩ := value.starts
        have none : valueStarts.any (isClosedBy .list) = false := rfl
        have stays := Bool.eq_false_iff.mpr (List.any_eq_false.mp none c start)
        exact ⟨before, c, more ++ rest, rfl, front, isSpace_valueStarts start, stays⟩
    | @key blank body behind spaces legal back =>
        exact ⟨blank, '"', _, List.append_assoc _ _ _, spaces, rfl, rfl⟩
  cases writes with
  | last leads front value back => exact first _ leads front value
  | more leads front value back inside => exact first _ leads front value

/-! ### Skipping values without brackets -/

theorem skipScalar_digit {c : Char} (digit : c.isDigit = true) (rest : List Char) :
    skipScalar (c :: rest) = skipNumber (c :: rest) := by
  unfold skipScalar
  split
  next same => exact absurd (List.cons.inj same).1 (ne_of_isDigit digit rfl)
  next same => exact absurd (List.cons.inj same).1 (ne_of_isDigit digit rfl)
  next same => exact absurd (List.cons.inj same).1 (ne_of_isDigit digit rfl)
  next same => exact absurd (List.cons.inj same).1 (ne_of_isDigit digit rfl)
  next same => exact absurd (List.cons.inj same).1 (ne_of_isDigit digit rfl)
  next same => cases same
  next same =>
    cases same
    rw [if_pos ((isDigit_eq c).trans digit)]

theorem skipScalar_writes {text rest : List Char} (writes : WritesScalar text)
    (ends : EndsNumber rest) : skipScalar (text ++ rest) = .ok rest := by
  cases writes with
  | word known =>
      simp only [List.mem_cons, List.not_mem_nil, or_false] at known
      rcases known with rfl | rfl | rfl <;> rfl
  | positive number =>
      obtain ⟨c, more, rfl, digit⟩ := number.starts
      exact (skipScalar_digit digit (more ++ rest)).trans (skipNumber_writes number ends)
  | negative number => exact skipNumber_writes number ends
  | string legal =>
      have skipped := skipString_legal legal rest
      rw [List.cons_append, List.append_assoc]
      exact skipped

/-! ### One step at a time -/

section
variable {opened : List Bracket} {bracket : Bracket}

/-- What the loop does at an entry between brackets. -/
def enter (room : Nat) (bracket : Bracket) (opened : List Bracket) (entry : List Char) :
    Except Stop (List Char) :=
  match bracket with
  | .list => skipOpen room .value (bracket :: opened) entry
  | .object => do skipOpen room .value (bracket :: opened) (← skipKey entry)

theorem skipOpen_value_blank {blank : List Char} (spaces : Blank blank) (room : Nat)
    (opened : List Bracket) (text : List Char) :
    skipOpen room .value opened (blank ++ text) = skipOpen room .value opened text := by
  cases room with
  | zero => rfl
  | succ less => rw [skipOpen, skipOpen, skipSpace_append spaces]

theorem enter_blank {blank : List Char} (spaces : Blank blank) (room : Nat) (bracket : Bracket)
    (opened : List Bracket) (text : List Char) :
    enter room bracket opened (blank ++ text) = enter room bracket opened text := by
  cases bracket with
  | list => exact skipOpen_value_blank spaces room _ text
  | object =>
      unfold enter skipKey
      rw [skipSpace_append spaces]

theorem skipKey_writes {before body behind : List Char} (front : Blank before)
    (legal : LegalChars body) (back : Blank behind) (rest : List Char) :
    skipKey (before ++ '"' :: (body ++ '"' :: (behind ++ ':' :: rest))) = .ok rest := by
  unfold skipKey
  rw [skipSpace_blank front rfl]
  have colon := skipSpace_blank back (show isSpace ':' = false from rfl) rest
  simp only [skipString_legal legal, bind, Except.bind, colon]

theorem enter_lead {lead before : List Char} (leads : WritesLead bracket lead)
    (front : Blank before) (room : Nat) (opened : List Bracket) (text : List Char) :
    enter room bracket opened (lead ++ (before ++ text)) =
      skipOpen room .value (bracket :: opened) text := by
  rw [← skipOpen_value_blank front]
  cases leads with
  | entry => rfl
  | @key spaces body behind first legal back =>
      have key := skipKey_writes first legal back (before ++ text)
      simp only [List.append_assoc, List.cons_append, List.nil_append]
      unfold enter
      rw [key]
      rfl

theorem skipOpen_scalar {text rest : List Char} (writes : WritesScalar text)
    (ends : EndsNumber rest) (room : Nat) (opened : List Bracket) :
    skipOpen (room + 1) .value opened (text ++ rest) = skipOpen room .next opened rest := by
  have skipped := skipScalar_writes writes ends
  obtain ⟨c, more, rfl, start⟩ := writes.starts
  have visible : isSpace c = false := isSpace_valueStarts (List.mem_append_left _ start)
  have plain : opens? c = none := opens?_scalarStarts start
  rw [List.cons_append] at skipped ⊢
  rw [skipOpen, skipSpace_cons visible]
  simp only [plain, skipped, bind, Except.bind]

theorem skipOpen_opening (bracket : Bracket) (room : Nat) (opened : List Bracket)
    (text : List Char) :
    skipOpen (room + 1) .value opened (bracket.opening :: text) =
      skipOpen room .first (bracket :: opened) text := by
  cases bracket <;> rfl

/-- What is done at the first character between brackets, behind blanks. -/
theorem skipOpen_between {expected : Expectation} {blank : List Char} {c : Char}
    (between : expected ≠ .value) (spaces : Blank blank) (visible : isSpace c = false)
    (room : Nat) (bracket : Bracket) (opened : List Bracket) (rest : List Char) :
    skipOpen (room + 1) expected (bracket :: opened) (blank ++ c :: rest) =
      if isClosedBy bracket c then skipOpen room .next opened rest
      else if expected = .next && c ≠ ',' then
        .error (.here
          (if bracket = .list then .expectedCommaInList else .expectedCommaInObject) (c :: rest))
      else enter room bracket opened (if expected = .next then rest else c :: rest) := by
  rw [skipOpen, skipSpace_blank spaces visible]
  · rfl
  · exact between

theorem skipOpen_closing {expected : Expectation} {blank : List Char}
    (between : expected ≠ .value) (spaces : Blank blank) (room : Nat) (bracket : Bracket)
    (opened : List Bracket) (rest : List Char) :
    skipOpen (room + 1) expected (bracket :: opened) (blank ++ bracket.closing :: rest) =
      skipOpen room .next opened rest := by
  have visible : isSpace bracket.closing = false := by cases bracket <;> rfl
  have closed : isClosedBy bracket bracket.closing = true := by cases bracket <;> rfl
  rw [skipOpen_between between spaces visible, if_pos closed]

theorem skipOpen_comma {blank : List Char} (spaces : Blank blank) (room : Nat)
    (bracket : Bracket) (opened : List Bracket) (rest : List Char) :
    skipOpen (room + 1) .next (bracket :: opened) (blank ++ ',' :: rest) =
      enter room bracket opened rest := by
  have stays : ¬ isClosedBy bracket ',' = true := by cases bracket <;> decide
  rw [skipOpen_between (by decide) spaces rfl, if_neg stays]
  rfl

theorem skipOpen_first {text : List Char} (writes : WritesPart (.inside bracket) text) (room : Nat)
    (opened : List Bracket) (rest : List Char) :
    skipOpen (room + 1) .first (bracket :: opened) (text ++ rest) =
      enter room bracket opened (text ++ rest) := by
  obtain ⟨blank, c, more, rfl, spaces, visible, stays⟩ := writes.starts_inside
  rw [List.append_assoc, List.cons_append, enter_blank spaces,
    skipOpen_between (by decide) spaces visible, if_neg (Bool.eq_false_iff.mp stays)]
  rfl

end

/-! ### Whole values -/

/-- A text is skipped, in fewer than two steps for each of its characters where it is a value. The
steps do not depend on the room that is left, nor on the brackets that are open around the text. -/
def Skipped : Part → List Char → Prop
  | .value, text => ∃ steps, steps + 1 ≤ 2 * text.length ∧
      ∀ room opened rest, EndsNumber rest →
        skipOpen (room + steps) .value opened (text ++ rest) = skipOpen room .next opened rest
  | .inside bracket, text => ∃ steps, steps ≤ 2 * text.length ∧
      ∀ room opened rest, enter (room + steps) bracket opened (text ++ bracket.closing :: rest) =
        skipOpen room .next opened rest

theorem endsNumber_closing (bracket : Bracket) (rest : List Char) :
    EndsNumber (bracket.closing :: rest) := by
  apply EndsNumber.mark
  cases bracket <;> decide

theorem WritesPart.skipped {part : Part} {text : List Char} (writes : WritesPart part text) :
    Skipped part text := by
  -- The induction is on the brackets in brackets. A comma or an opening bracket pays for the step
  -- that the value in front of it or behind it leaves unpaid.
  induction writes with
  | scalar scalar =>
      obtain ⟨c, more, rfl, start⟩ := scalar.starts
      refine ⟨1, ?_, fun room opened rest ends => skipOpen_scalar scalar ends room opened⟩
      rw [List.length_cons]
      omega
  | @empty blank bracket spaces =>
      refine ⟨2, ?_, fun room opened rest ends => ?_⟩
      · simp only [List.length_cons, List.length_append, List.length_nil]
        omega
      · rw [List.cons_append, List.append_assoc, skipOpen_opening]
        exact skipOpen_closing (by decide) spaces room bracket opened rest
  | @filled bracket text inside ih =>
      obtain ⟨steps, bound, skipped⟩ := ih
      refine ⟨steps + 2, ?_, fun room opened rest ends => ?_⟩
      · simp only [List.length_cons, List.length_append, List.length_nil]
        omega
      · rw [List.cons_append, List.append_assoc, List.singleton_append, ← Nat.add_assoc,
          skipOpen_opening, skipOpen_first inside]
        exact skipped room opened rest
  | @last bracket lead before text behind leads front value back ih =>
      obtain ⟨steps, bound, skipped⟩ := ih
      refine ⟨steps + 1, ?_, fun room opened rest => ?_⟩
      · simp only [List.length_append]
        omega
      · have ends := EndsNumber.blank back (endsNumber_closing bracket rest)
        have value := skipped (room + 1) (bracket :: opened) _ ends
        rw [Nat.add_right_comm, Nat.add_assoc] at value
        simp only [List.append_assoc]
        rw [enter_lead leads front, value]
        exact skipOpen_closing (by decide) back room bracket opened rest
  | @more bracket lead before text behind others leads front value back inside ih ihInside =>
      obtain ⟨steps, bound, skipped⟩ := ih
      obtain ⟨further, boundFurther, skippedFurther⟩ := ihInside
      refine ⟨further + (steps + 1), ?_, fun room opened rest => ?_⟩
      · simp only [List.length_append, List.length_cons]
        omega
      · have ends := EndsNumber.blank back (EndsNumber.mark (c := ',') (by decide)
          (others ++ bracket.closing :: rest))
        have value := skipped (room + further + 1) (bracket :: opened) _ ends
        have room_eq : room + (further + (steps + 1)) = room + further + 1 + steps := by omega
        simp only [List.append_assoc, List.cons_append]
        rw [enter_lead leads front, room_eq, value, skipOpen_comma back]
        exact skippedFurther room opened rest

/-- However a value is written, it is skipped. -/
theorem skipValue_writes {blank text rest : List Char} (spaces : Blank blank)
    (writes : WritesPart .value text) (ends : EndsNumber rest) :
    skipValue (blank ++ (text ++ rest)) = .ok rest := by
  obtain ⟨steps, bound, skipped⟩ := writes.skipped
  obtain ⟨more, enough⟩ : ∃ more, 2 * (blank ++ (text ++ rest)).length + 2 = more + 1 + steps := by
    simp only [List.length_append]
    refine ⟨2 * (blank.length + (text.length + rest.length)) + 1 - steps, ?_⟩
    omega
  unfold skipValue
  rw [enough, skipOpen_value_blank spaces, skipped (more + 1) [] rest ends]
  rfl

end ProxyDial.Json
