import Mathlib.Data.List.TakeWhile
import ProxyDial.Destination.Authority
import ProxyDial.Proofs.Dial.Outcome

set_option autoImplicit false

/-! What a scan over the text of an authority has seen. A step takes one character of a few sorts;
what a whole scan that succeeds knows about the text follows from its steps. -/

namespace ProxyDial.Authority
open Text

/-- The characters that an authority is made of. -/
def Allowed (c : Char) : Prop := c = ':' ∨ c = '[' ∨ c = ']' ∨ c = '@' ∨ c = '%' ∨ isPlain c = true

theorem allowed_of_isPlain {c : Char} (plain : isPlain c = true) : Allowed c :=
  .inr (.inr (.inr (.inr (.inr plain))))

namespace Scan

/-- The scan over a whole text. -/
def run (scan : Scan) (text : List Char) : Except Problem Scan := text.foldlM step scan

theorem run_cons (scan : Scan) (c : Char) (rest : List Char) :
    scan.run (c :: rest) = scan.step c >>= fun next => next.run rest :=
  List.foldlM_cons

theorem run_append (scan : Scan) (front rest : List Char) :
    scan.run (front ++ rest) = scan.run front >>= fun next => next.run rest :=
  List.foldlM_append

/-- What one step does with each sort of characters. -/
inductive Steps (scan : Scan) : Char → Scan → Prop
  | colon (room : scan.colons < maxColons) :
      Steps scan ':' { scan with colons := scan.colons + 1, endsInAt := false }
  | opening (clean : scan.percent = false) (first : scan.opened = false) :
      Steps scan '[' { scan with opened := true, endsInAt := false }
  | closing (opened : scan.opened = true) (first : scan.closed = false) :
      Steps scan ']'
        { scan with closed := true, colons := 0, percent := false, endsInAt := false }
  | user : Steps scan '@' { scan with colons := 0, percent := false, endsInAt := true }
  | percent : Steps scan '%' { scan with percent := true, endsInAt := false }
  | plain {c : Char} (plain : isPlain c = true) : Steps scan c { scan with endsInAt := false }

variable {scan before middle behind : Scan} {c : Char} {text front rest : List Char}

theorem steps_of_ok (ok : scan.step c = .ok behind) : scan.Steps c behind := by
  unfold step at ok
  dsimp only at ok
  split at ok
  next same =>
    subst same
    split at ok
    · cases ok
    · cases ok
      exact .colon (by omega)
  next =>
    split at ok
    next same =>
      subst same
      split at ok
      · cases ok
      next free =>
        cases ok
        rw [Bool.or_eq_true, not_or] at free
        exact .opening (by simpa using free.1) (by simpa using free.2)
    next =>
      split at ok
      next same =>
        subst same
        split at ok
        · cases ok
        next free =>
          cases ok
          rw [Bool.or_eq_true, not_or] at free
          exact .closing (by simpa using free.1) (by simpa using free.2)
      next =>
        split at ok
        next same =>
          subst same
          cases ok
          exact .user
        next notAt =>
          split at ok
          next same =>
            subst same
            cases ok
            exact .percent
          next =>
            split at ok
            next plain =>
              cases ok
              rw [decide_eq_false notAt]
              exact .plain plain
            · cases ok

/-- What the scan of a text knows about it behind its last character. -/
structure Seen (before : Scan) (text : List Char) (behind : Scan) : Prop where
  allowed : ∀ c ∈ text, Allowed c
  opened : behind.opened = true ↔ before.opened = true ∨ '[' ∈ text
  openedOnce : before.opened = true → '[' ∉ text
  closed : behind.closed = true ↔ before.closed = true ∨ ']' ∈ text
  closedOnce : before.closed = true → ']' ∉ text
  /-- What is closed has been opened. -/
  nested : (before.closed = true → before.opened = true) →
    behind.closed = true → behind.opened = true
  colons : ']' ∉ text → '@' ∉ text → behind.colons = before.colons + text.count ':'
  percent : ']' ∉ text → '@' ∉ text → (behind.percent = true ↔ before.percent = true ∨ '%' ∈ text)
  endsInAt : '@' ∉ text → behind.endsInAt = true → before.endsInAt = true
  colonless : ':' ∉ text → before.colons = 0 → behind.colons = 0
  bounded : before.colons ≤ maxColons → behind.colons ≤ maxColons

theorem Seen.nil (scan : Scan) : Seen scan [] scan := by
  constructor <;> simp

theorem Steps.seen (step : before.Steps c behind) : Seen before [c] behind := by
  cases step with
  | colon room =>
      have within : before.colons + 1 ≤ maxColons := room
      constructor <;> simp_all [Allowed]
  | opening clean first => constructor <;> simp_all [Allowed]
  | closing opened first => constructor <;> simp_all [Allowed]
  | user => constructor <;> simp_all [Allowed]
  | percent => constructor <;> simp_all [Allowed]
  | plain plain =>
      have others : ∀ mark ∈ [':', '[', ']', '@', '%'], c ≠ mark ∧ mark ≠ c := by
        have marks : ∀ mark ∈ [':', '[', ']', '@', '%'], isPlain mark = false := by
          simp [isPlain]
        intro mark member
        have differ : c ≠ mark := by
          rintro rfl
          rw [marks c member] at plain
          cases plain
        exact ⟨differ, differ.symm⟩
      constructor <;> simp_all [Allowed]

theorem Seen.trans (first : Seen before front middle) (second : Seen middle rest behind) :
    Seen before (front ++ rest) behind where
  allowed c member := (List.mem_append.mp member).elim (first.allowed c) (second.allowed c)
  opened := by
    rw [second.opened, first.opened, List.mem_append, or_assoc]
  openedOnce already member := (List.mem_append.mp member).elim (first.openedOnce already)
    (second.openedOnce (first.opened.mpr (.inl already)))
  closed := by
    rw [second.closed, first.closed, List.mem_append, or_assoc]
  closedOnce already member := (List.mem_append.mp member).elim (first.closedOnce already)
    (second.closedOnce (first.closed.mpr (.inl already)))
  nested := fun inside => second.nested (first.nested inside)
  colons noClosing noAt := by
    rw [List.mem_append, not_or] at noClosing noAt
    rw [second.colons noClosing.2 noAt.2, first.colons noClosing.1 noAt.1, List.count_append]
    omega
  percent noClosing noAt := by
    rw [List.mem_append, not_or] at noClosing noAt
    rw [second.percent noClosing.2 noAt.2, first.percent noClosing.1 noAt.1, List.mem_append,
      or_assoc]
  endsInAt noAt := by
    rw [List.mem_append, not_or] at noAt
    exact fun atEnd => first.endsInAt noAt.1 (second.endsInAt noAt.2 atEnd)
  colonless noColon := by
    rw [List.mem_append, not_or] at noColon
    exact fun none => second.colonless noColon.2 (first.colonless noColon.1 none)
  bounded := fun small => second.bounded (first.bounded small)

theorem seen_of_run (ok : before.run text = .ok behind) : Seen before text behind := by
  induction text generalizing before with
  | nil =>
      cases ok
      exact .nil _
  | cons c rest ih =>
      rw [run_cons] at ok
      obtain ⟨middle, step, later⟩ := Dial.bind_ok ok
      exact (steps_of_ok step).seen.trans (ih later)

/-- A scan that reads on behind a part of the text. -/
theorem run_append_of_ok (ok : before.run front = .ok middle) (rest : List Char) :
    before.run (front ++ rest) = middle.run rest := by
  rw [run_append, ok]
  rfl

/-- A step fails for the order of the characters alone, and not with one that opens and closes
nothing while there is room for a colon. -/
theorem structural_of_step {problem : Problem} (allowed : Allowed c)
    (failed : scan.step c = .error problem) : problem = .structural ∧
      (c = '[' ∨ c = ']' ∨ (c = ':' ∧ maxColons ≤ scan.colons)) := by
  unfold step at failed
  dsimp only at failed
  split at failed
  next same =>
    split at failed
    next full =>
      cases failed
      exact ⟨rfl, .inr (.inr ⟨same, full⟩)⟩
    · cases failed
  next notColon =>
    split at failed
    next same =>
      split at failed
      · cases failed
        exact ⟨rfl, .inl same⟩
      · cases failed
    next notOpening =>
      split at failed
      next same =>
        split at failed
        · cases failed
          exact ⟨rfl, .inr (.inl same)⟩
        · cases failed
      next notClosing =>
        split at failed
        · cases failed
        next notAt =>
          split at failed
          · cases failed
          next notPercent =>
            split at failed
            · cases failed
            next notPlain =>
              refine absurd allowed ?_
              simp [Allowed, notColon, notOpening, notClosing, notAt, notPercent, notPlain]

/-- The only trouble with allowed characters is their order. -/
theorem structural_of_run {problem : Problem} (allowed : ∀ c ∈ text, Allowed c)
    (failed : before.run text = .error problem) : problem = .structural := by
  induction text generalizing before with
  | nil => cases failed
  | cons c rest ih =>
      rw [run_cons] at failed
      cases step : before.step c with
      | error other =>
          rw [step] at failed
          cases failed
          exact (structural_of_step (allowed c (.head _)) step).1
      | ok next =>
          rw [step] at failed
          exact ih (fun c member => allowed c (.tail _ member)) failed

/-- Characters that open and close nothing are taken while there are not too many colons. -/
theorem run_ok_of_inner (before : Scan) (allowed : ∀ c ∈ text, Allowed c) (noOpening : '[' ∉ text)
    (noClosing : ']' ∉ text) (noAt : '@' ∉ text)
    (room : before.colons + text.count ':' ≤ maxColons) :
    ∃ behind, before.run text = .ok behind := by
  induction text generalizing before with
  | nil => exact ⟨before, rfl⟩
  | cons c rest ih =>
      rw [List.mem_cons, not_or] at noOpening noClosing noAt
      rw [run_cons]
      cases step : before.step c with
      | error problem =>
          -- Two of the ways to fail need a bracket, and the third one a colon too many.
          rcases (structural_of_step (allowed c (.head _)) step).2 with same | same | ⟨same, full⟩
          · exact absurd same.symm noOpening.1
          · exact absurd same.symm noClosing.1
          · rw [same, List.count_cons_self] at room
            omega
      | ok next =>
          have seen := (steps_of_ok step).seen
          apply ih _ (fun c member => allowed c (.tail _ member)) noOpening.2 noClosing.2 noAt.2
          rw [seen.colons (by simpa using noClosing.1) (by simpa using noAt.1)]
          rw [← List.singleton_append, List.count_append] at room
          omega

theorem check_ok_iff : scan.check = .ok () ↔ scan.opened = scan.closed ∧ scan.colons ≤ 1 ∧
    scan.endsInAt = false ∧ scan.percent = false := by
  unfold check
  rw [ite_eq_right_iff]
  simp only [Bool.or_eq_true, decide_eq_true_eq, reduceCtorEq, imp_false, not_or, not_not,
    not_lt, Bool.not_eq_true, and_assoc]

/-- The rules for the whole text are about its order as well. -/
theorem structural_of_check {problem : Problem} (failed : scan.check = .error problem) :
    problem = .structural := by
  unfold check at failed
  split at failed
  · cases failed
    rfl
  · cases failed

end Scan

theorem endsAuthorityText_of_allowed {c : Char} (allowed : Allowed c) :
    endsAuthorityText c = false := by
  have marks : ∀ mark ∈ ['/', '?', '#'], ¬ Allowed mark := by
    simp [Allowed, isPlain]
  unfold endsAuthorityText
  rw [decide_eq_false_iff_not]
  exact fun member => marks c member allowed

/-- A text of allowed characters is an authority when its scan and the check behind it succeed. -/
theorem validate_of_allowed {text : List Char} (notEmpty : text ≠ [])
    (allowed : ∀ c ∈ text, Allowed c) :
    validate text = ({} : Scan).run text >>= fun scan => scan.check := by
  have inside : text.any endsAuthorityText = false := by
    rw [List.any_eq_false]
    intro c member
    rw [endsAuthorityText_of_allowed (allowed c member)]
    exact Bool.false_ne_true
  have whole : text.takeWhile (fun c => !endsAuthorityText c) = text := by
    rw [List.takeWhile_eq_self_iff]
    intro c member
    rw [endsAuthorityText_of_allowed (allowed c member)]
    rfl
  unfold validate
  rw [whole, inside]
  simp only [List.isEmpty_iff, notEmpty, if_false, Bool.false_eq_true]
  unfold Scan.run
  cases List.foldlM Scan.step {} text with
  | error problem => rfl
  | ok scan =>
      change (scan.check >>= fun _ => pure ()) = scan.check
      cases scan.check <;> rfl

/-- An authority has been scanned to its end. -/
theorem scan_of_validate {text : List Char} (ok : validate text = .ok ()) :
    ∃ scan, ({} : Scan).run text = .ok scan ∧ scan.check = .ok () := by
  unfold validate at ok
  split at ok
  · cases ok
  · obtain ⟨scan, run, rest⟩ := Dial.bind_ok ok
    obtain ⟨⟨⟩, check, rest⟩ := Dial.bind_ok rest
    split at rest
    · cases rest
    next inside =>
      have whole : text.takeWhile (fun c => !endsAuthorityText c) = text := by
        rw [List.takeWhile_eq_self_iff]
        intro c member
        have clean := List.any_eq_false.mp (Bool.eq_false_iff.mpr inside) c member
        simpa using clean
      rw [whole] at run
      exact ⟨scan, run, check⟩

end ProxyDial.Authority
