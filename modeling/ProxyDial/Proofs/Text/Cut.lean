import ProxyDial.Text.Cut

set_option autoImplicit false

/-! What a cut leaves: the two parts and the mark between them make up the text. The same goes for
the parts that all marks of a kind leave. -/

namespace ProxyDial.Text

variable {mark : Char} {text before behind : List Char}

/-- Up to a mark that is not in the part before it, taking all that differs stops there. -/
theorem takeWhile_ne_append_cons (absent : mark ∉ before) (behind : List Char) :
    (before ++ mark :: behind).takeWhile (· ≠ mark) = before := by
  rw [List.takeWhile_append_of_pos fun c member => by
    rw [decide_eq_true_eq]
    rintro rfl
    exact absent member]
  simp

theorem cutAt?_append_cons (absent : mark ∉ before) (behind : List Char) :
    cutAt? mark (before ++ mark :: behind) = some (before, behind) := by
  have there : mark ∈ before ++ mark :: behind := by simp
  have dropped : (before ++ mark :: behind).dropWhile (· ≠ mark) = mark :: behind := by
    have whole := List.takeWhile_append_dropWhile (p := (· ≠ mark)) (l := before ++ mark :: behind)
    rw [takeWhile_ne_append_cons absent] at whole
    exact List.append_cancel_left whole
  unfold cutAt?
  rw [if_pos there, takeWhile_ne_append_cons absent, dropped]
  rfl

/-- A text is cut at the mark behind which there is no other one. -/
theorem cutAtLast?_append_cons (before : List Char) (absent : mark ∉ behind) :
    cutAtLast? mark (before ++ mark :: behind) = some (before, behind) := by
  have reversed :
      (before ++ mark :: behind).reverse = behind.reverse ++ mark :: before.reverse := by
    simp
  unfold cutAtLast?
  rw [reversed, cutAt?_append_cons (by simpa using absent)]
  simp

theorem cutAtLast?_of_not_mem (absent : mark ∉ text) : cutAtLast? mark text = none := by
  have reversed : mark ∉ text.reverse := by simpa using absent
  unfold cutAtLast? cutAt?
  rw [if_neg reversed]
  rfl

/-- A text with a mark in it falls apart at the last one. -/
theorem exists_last_mark (there : mark ∈ text) :
    ∃ before behind, text = before ++ mark :: behind ∧ mark ∉ behind := by
  obtain ⟨later, earlier, split, absent⟩ := List.eq_append_cons_of_mem (List.mem_reverse.mpr there)
  refine ⟨earlier.reverse, later.reverse, ?_, by simpa using absent⟩
  have reversed := congrArg List.reverse split
  simpa using reversed

/-- Where a text is cut that holds the mark, and what comes before, has been settled once the mark
is read. -/
theorem cutAtText?_settled (mark text : List Char) :
    ∃ before behind, ∀ more,
      cutAtText? mark (text ++ mark ++ more) = some (before, behind ++ more) := by
  induction text with
  | nil =>
      refine ⟨[], [], fun more => ?_⟩
      cases whole : mark ++ more with
      | nil =>
          obtain ⟨rfl, rfl⟩ := List.append_eq_nil_iff.mp whole
          rfl
      | cons c rest =>
          have starts : mark.isPrefixOf (c :: rest) = true := by
            rw [← whole, List.isPrefixOf_iff_prefix]
            exact List.prefix_append mark more
          rw [List.nil_append, whole]
          unfold cutAtText?
          rw [if_pos starts, ← whole, List.drop_left]
          rfl
  | cons c rest ih =>
      obtain ⟨before, behind, cut⟩ := ih
      by_cases starts : mark <+: c :: rest ++ mark
      · refine ⟨[], (c :: rest ++ mark).drop mark.length, fun more => ?_⟩
        have longer : mark <+: c :: rest ++ mark ++ more := starts.trans (List.prefix_append _ more)
        rw [← List.drop_append_of_le_length starts.length_le]
        unfold cutAtText?
        exact if_pos (List.isPrefixOf_iff_prefix.mpr longer)
      · refine ⟨c :: before, behind, fun more => ?_⟩
        have still : ¬ mark <+: c :: rest ++ mark ++ more := by
          intro longer
          have room : mark.length ≤ (c :: rest ++ mark).length := by
            simp only [List.length_append, List.length_cons]
            omega
          exact starts (List.prefix_of_prefix_length_le longer (List.prefix_append _ more) room)
        unfold cutAtText?
        refine (if_neg (by simpa [List.isPrefixOf_iff_prefix] using still)).trans ?_
        change (cutAtText? mark (rest ++ mark ++ more)).map _ = _
        rw [cut more]
        rfl

/-- A text that lacks a character of the mark is not cut. -/
theorem cutAtText?_of_not_mem {mark : List Char} {c : Char} (inMark : c ∈ mark)
    (absent : c ∉ text) : cutAtText? mark text = none := by
  induction text with
  | nil =>
      unfold cutAtText?
      exact if_neg (List.ne_nil_of_mem inMark)
  | cons d rest ih =>
      have other : ¬ mark.isPrefixOf (d :: rest) = true := by
        intro starts
        exact absent ((List.isPrefixOf_iff_prefix.mp starts).subset inMark)
      unfold cutAtText?
      rw [if_neg other, ih fun member => absent (.tail _ member)]
      rfl

/-- The parts between marks hold none. -/
theorem not_mem_of_mem_splitOn {mark : Char} {text part : List Char}
    (member : part ∈ text.splitOn mark) : mark ∉ part := by
  induction text generalizing part with
  | nil =>
      rw [List.splitOn_nil, List.mem_singleton] at member
      subst member
      exact List.not_mem_nil
  | cons c rest ih =>
      rw [List.splitOn_cons_eq_if_modifyHead] at member
      split at member
      next =>
        rcases List.mem_cons.mp member with rfl | later
        · exact List.not_mem_nil
        · exact ih later
      next other =>
        cases parts : rest.splitOn mark with
        | nil => exact absurd parts (by simp)
        | cons first others =>
            rw [parts, List.modifyHead_cons] at member
            rw [parts] at ih
            rcases List.mem_cons.mp member with rfl | later
            · have differs : mark ≠ c := fun same => other (by simp [same])
              exact List.not_mem_cons_of_ne_of_not_mem differs (ih (.head _))
            · exact ih (.tail _ later)

/-- Between marks stand the characters of the parts. -/
theorem mem_intercalate_iff {mark c : Char} (other : c ≠ mark) {parts : List (List Char)} :
    c ∈ [mark].intercalate parts ↔ ∃ part ∈ parts, c ∈ part := by
  induction parts with
  | nil => simp
  | cons part parts ih =>
      cases parts with
      | nil => simp
      | cons next parts =>
          rw [List.intercalate_cons_cons, List.mem_append, ih]
          simp [other]

/-- A text does not go on with characters of a kind. -/
def Stops (p : Char → Bool) (rest : List Char) : Prop := ∀ c, rest.head? = some c → p c = false

section
variable {p : Char → Bool} {front rest : List Char}

theorem Stops.nil : Stops p [] := nofun

theorem Stops.cons {c : Char} (other : p c = false) : Stops p (c :: rest) := by
  intro first same
  cases same
  exact other

/-- Characters of a kind are taken up to where the text stops to hold them. -/
theorem span_of_stops (all : ∀ c ∈ front, p c = true) (stops : Stops p rest) :
    (front ++ rest).takeWhile p = front ∧ (front ++ rest).dropWhile p = rest := by
  rw [List.takeWhile_append_of_pos all, List.dropWhile_append_of_pos all]
  cases rest with
  | nil => simp
  | cons c rest =>
      have other : ¬ p c = true := by
        rw [stops c rfl]
        exact Bool.false_ne_true
      rw [List.takeWhile_cons_of_neg other, List.dropWhile_cons_of_neg other, List.append_nil]
      exact ⟨rfl, rfl⟩

end

end ProxyDial.Text
