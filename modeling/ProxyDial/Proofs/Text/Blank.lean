import Mathlib.Data.List.TakeWhile
import ProxyDial.Text.Blank

set_option autoImplicit false

/-! What trimming leaves: a text with no blank at either end. Such a text is not changed by
trimming. -/

namespace ProxyDial.Text

variable {p : Char → Bool} {text : List Char}

theorem dropWhile_eq_self (start : ∀ c, text.head? = some c → p c = false) :
    text.dropWhile p = text := by
  cases text with
  | nil => rfl
  | cons c rest => exact List.dropWhile_cons_of_neg (by simp [start c rfl])

theorem dropEndWhile_eq_self (stop : ∀ c, text.getLast? = some c → p c = false) :
    dropEndWhile p text = text := by
  have reversed : text.reverse.dropWhile p = text.reverse := by
    apply dropWhile_eq_self
    intro c last
    rw [List.head?_reverse] at last
    exact stop c last
  unfold dropEndWhile
  rw [reversed, List.reverse_reverse]

theorem dropEndWhile_append_of_all {back : List Char} (all : ∀ c ∈ back, p c = true) :
    dropEndWhile p (text ++ back) = dropEndWhile p text := by
  have reversed : ∀ c ∈ back.reverse, p c = true :=
    fun c member => all c (List.mem_reverse.mp member)
  unfold dropEndWhile
  rw [List.reverse_append, List.dropWhile_append_of_pos reversed]

theorem head?_dropWhile {c : Char} (first : (text.dropWhile p).head? = some c) : p c = false := by
  have found := List.head?_dropWhile_not p text
  rw [first] at found
  exact found

theorem getLast?_dropEndWhile {c : Char} (last : (dropEndWhile p text).getLast? = some c) :
    p c = false := by
  unfold dropEndWhile at last
  rw [List.getLast?_reverse] at last
  exact head?_dropWhile last

/-- What is kept of a text stands at its start. -/
theorem dropEndWhile_prefix (p : Char → Bool) (text : List Char) :
    dropEndWhile p text <+: text := by
  have suffix := List.dropWhile_suffix (l := text.reverse) p
  have reversed := List.reverse_prefix.mpr suffix
  rw [List.reverse_reverse] at reversed
  exact reversed

/-- What is dropped from the start ends before a character that does not have the property. -/
theorem dropWhile_append_cons {c : Char} (stops : p c = false) (front rest : List Char) :
    (front ++ c :: rest).dropWhile p = front.dropWhile p ++ c :: rest := by
  rw [List.dropWhile_append]
  split
  next empty =>
    rw [List.isEmpty_iff.mp empty, List.dropWhile_cons_of_neg (by simp [stops])]
    rfl
  next => rfl

theorem dropEndWhile_append_cons {c : Char} (stops : p c = false) (front rest : List Char) :
    dropEndWhile p (front ++ c :: rest) = front ++ c :: dropEndWhile p rest := by
  have reversed : (front ++ c :: rest).reverse = rest.reverse ++ c :: front.reverse := by simp
  unfold dropEndWhile
  rw [reversed, dropWhile_append_cons stops]
  simp

/-- Between two characters that stay, nothing is dropped. -/
theorem dropEnds_between {p q : Char → Bool} {c d : Char} (start : p c = false)
    (stop : q d = false) (front middle rest : List Char) :
    dropEndWhile q ((front ++ c :: (middle ++ d :: rest)).dropWhile p) =
      front.dropWhile p ++ c :: (middle ++ d :: dropEndWhile q rest) := by
  rw [dropWhile_append_cons start, ← List.cons_append, ← List.append_assoc,
    dropEndWhile_append_cons stop, List.append_assoc, List.cons_append]

theorem trimmed_eq_self (start : ∀ c, text.head? = some c → isBlank c = false)
    (stop : ∀ c, text.getLast? = some c → isBlank c = false) : trimmed text = text := by
  unfold trimmed
  rw [dropWhile_eq_self start, dropEndWhile_eq_self stop]

/-- Nothing is left of a text exactly if it is all blank. -/
theorem trimmed_eq_nil_iff : trimmed text = [] ↔ ∀ c ∈ text, isBlank c = true := by
  unfold trimmed dropEndWhile
  rw [List.reverse_eq_nil_iff, List.dropWhile_eq_nil_iff]
  constructor
  · intro rest
    rw [← List.dropWhile_eq_nil_iff]
    cases left : text.dropWhile isBlank with
    | nil => rfl
    | cons c others =>
        have first : isBlank c = false := head?_dropWhile (by rw [left]; rfl)
        rw [left] at rest
        rw [rest c (by simp)] at first
        cases first
  · intro all c member
    rw [List.dropWhile_eq_nil_iff.mpr all] at member
    cases member

/-- Blanks around a text that neither starts nor ends with one are taken away. -/
theorem trimmed_around {front back : List Char} (blankFront : ∀ c ∈ front, isBlank c = true)
    (blankBack : ∀ c ∈ back, isBlank c = true)
    (start : ∀ c, text.head? = some c → isBlank c = false)
    (stop : ∀ c, text.getLast? = some c → isBlank c = false) :
    trimmed (front ++ text ++ back) = text := by
  cases text with
  | nil =>
      rw [List.append_nil, trimmed_eq_nil_iff]
      exact List.forall_mem_append.mpr ⟨blankFront, blankBack⟩
  | cons c rest =>
      have starts : (c :: rest ++ back).dropWhile isBlank = c :: rest ++ back :=
        dropWhile_eq_self start
      unfold trimmed
      rw [List.append_assoc, List.dropWhile_append_of_pos blankFront, starts,
        dropEndWhile_append_of_all blankBack, dropEndWhile_eq_self stop]

/-- Blanks around a text that holds none are taken away. -/
theorem trimmed_between {front back : List Char} (blankFront : ∀ c ∈ front, isBlank c = true)
    (blankBack : ∀ c ∈ back, isBlank c = true) (clear : ∀ c ∈ text, isBlank c = false) :
    trimmed (front ++ text ++ back) = text :=
  trimmed_around blankFront blankBack (fun c first => clear c (List.mem_of_head? first))
    fun c last => clear c (List.mem_of_getLast? last)

theorem head?_trimmed {c : Char} (first : (trimmed text).head? = some c) : isBlank c = false := by
  obtain ⟨rest, whole⟩ := dropEndWhile_prefix isBlank (text.dropWhile isBlank)
  have starts : (text.dropWhile isBlank).head? = some c := by
    rw [← whole, List.head?_append]
    unfold trimmed at first
    rw [first]
    rfl
  exact head?_dropWhile starts

theorem getLast?_trimmed {c : Char} (last : (trimmed text).getLast? = some c) :
    isBlank c = false :=
  getLast?_dropEndWhile last

theorem trimmed_trimmed (text : List Char) : trimmed (trimmed text) = trimmed text :=
  trimmed_eq_self (fun _ first => head?_trimmed first) fun _ last => getLast?_trimmed last

/-- What trimming takes away are blanks around what it leaves. -/
theorem exists_blanks_around (text : List Char) : ∃ front back,
    text = front ++ trimmed text ++ back ∧ (∀ c ∈ front, isBlank c = true) ∧
      ∀ c ∈ back, isBlank c = true := by
  refine ⟨text.takeWhile isBlank, ((text.dropWhile isBlank).reverse.takeWhile isBlank).reverse,
    ?_, fun c member => ?_, fun c member => ?_⟩
  · have behind : trimmed text ++ ((text.dropWhile isBlank).reverse.takeWhile isBlank).reverse =
        text.dropWhile isBlank := by
      unfold trimmed dropEndWhile
      rw [← List.reverse_append, List.takeWhile_append_dropWhile, List.reverse_reverse]
    rw [List.append_assoc, behind, List.takeWhile_append_dropWhile]
  · exact List.mem_takeWhile_imp member
  · exact List.mem_takeWhile_imp (List.mem_reverse.mp member)

theorem nonBlank?_eq_some {text : Option String} {found : String}
    (named : nonBlank? text = some found) :
    trimmed found.toList = found.toList ∧ found ≠ "" := by
  obtain ⟨mapped, filled⟩ := Option.filter_eq_some_iff.mp named
  obtain ⟨written, -, same⟩ := Option.map_eq_some_iff.mp mapped
  refine ⟨?_, of_decide_eq_true filled⟩
  rw [← same, trim, String.toList_ofList, trimmed_trimmed]

/-- A text that was found not to be blank is found again. -/
theorem nonBlank?_again {text : Option String} {found : String}
    (named : nonBlank? text = some found) : nonBlank? (some found) = some found := by
  obtain ⟨trims, filled⟩ := nonBlank?_eq_some named
  unfold nonBlank?
  rw [Option.map_some, trim, trims, String.ofList_toList]
  simp [filled]

theorem nonBlank?_of_filled {written : String} {c : Char} (member : c ∈ written.toList)
    (filled : isBlank c = false) : nonBlank? (some written) = some (trim written) := by
  have left : trim written ≠ "" := by
    intro empty
    have none : trimmed written.toList = [] := by simpa [trim] using empty
    have blank := trimmed_eq_nil_iff.mp none c member
    rw [filled] at blank
    cases blank
  unfold nonBlank?
  rw [Option.map_some, Option.filter_some_pos (by simpa using left)]

theorem nonBlank?_of_blank {written : String} (blank : ∀ c ∈ written.toList, isBlank c = true) :
    nonBlank? (some written) = none := by
  unfold nonBlank? trim
  rw [Option.map_some, trimmed_eq_nil_iff.mpr blank]
  rfl

theorem nonBlank?_isSome_iff {text : Option String} : (nonBlank? text).isSome = true ↔
    ∃ written, text = some written ∧ ∃ c ∈ written.toList, isBlank c = false := by
  cases text with
  | none => simp [nonBlank?]
  | some written => simp [nonBlank?, Option.isSome_filter, trim, trimmed_eq_nil_iff]

/-- A text without a bracket at either end is left alone. -/
theorem unbracketed_eq_self (start : text.head? ≠ some '[') (stop : text.getLast? ≠ some ']') :
    unbracketed text = text := by
  unfold unbracketed
  rw [dropWhile_eq_self, dropEndWhile_eq_self]
  · rintro c last
    rw [decide_eq_false_iff_not]
    rintro rfl
    exact stop last
  · rintro c first
    rw [decide_eq_false_iff_not]
    rintro rfl
    exact start first

/-- Where no bracket is opened at the start, nothing is dropped there. -/
theorem unbracketed_starts (start : text.head? ≠ some '[') : unbracketed text <+: text := by
  unfold unbracketed
  rw [dropWhile_eq_self]
  · exact dropEndWhile_prefix _ text
  · rintro c first
    rw [decide_eq_false_iff_not]
    rintro rfl
    exact start first

/-- Around a text that has no bracket at its own ends, one pair of them is taken away. -/
theorem unbracketed_pair (start : text.head? ≠ some '[') (stop : text.getLast? ≠ some ']') :
    unbracketed ('[' :: text ++ [']']) = text := by
  have opened : ('[' :: text ++ [']']).dropWhile (· = '[') = text ++ [']'] := by
    rw [List.cons_append, List.dropWhile_cons_of_pos (by decide)]
    apply dropWhile_eq_self
    intro c first
    rw [decide_eq_false_iff_not]
    rintro rfl
    cases text with
    | nil => exact absurd first (by decide)
    | cons d rest => exact start first
  have closed : dropEndWhile (· = ']') (text ++ [']']) = dropEndWhile (· = ']') text := by
    unfold dropEndWhile
    simp
  unfold unbracketed
  rw [opened, closed]
  apply dropEndWhile_eq_self
  intro c last
  rw [decide_eq_false_iff_not]
  rintro rfl
  exact stop last

/-- One pair of brackets around a text without any is taken away. -/
theorem unbracketed_brackets (noOpening : '[' ∉ text) (noClosing : ']' ∉ text) :
    unbracketed ('[' :: text ++ [']']) = text :=
  unbracketed_pair (fun first => noOpening (List.mem_of_head? first))
    fun last => noClosing (List.mem_of_getLast? last)

end ProxyDial.Text
