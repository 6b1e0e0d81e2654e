import Mathlib.Data.List.TakeWhile
import ProxyDial.Http.ResponseHead
import ProxyDial.Proofs.Dial.Outcome

set_option autoImplicit false

/-! Where the head of a response ends: behind the first empty line that follows the status line.
Empty lines in front of the status line are skipped. That is said here in terms of lines alone,
without anything that a line has to hold, and whatever is accepted as a head ends there. -/

namespace ProxyDial.Http
open Text
open Dial (bind_ok)

/-- The first line, with the line feed at its end, and what follows it. -/
def cutLine : Bytes → Option (Bytes × Bytes)
  | [] => none
  | byte :: rest =>
      if byte = lineFeed then some ([byte], rest)
      else (cutLine rest).map fun (line, rest) => (byte :: line, rest)

def isEmptyLine (line : Bytes) : Bool := line = [lineFeed] || line = [carriageReturn, lineFeed]

theorem cutLine_append {bytes line rest : Bytes} (cut : cutLine bytes = some (line, rest)) :
    bytes = line ++ rest := by
  induction bytes generalizing line with
  | nil => cases cut
  | cons byte bytes ih =>
      unfold cutLine at cut
      by_cases ends : byte = lineFeed
      · rw [if_pos ends] at cut
        cases cut
        rfl
      · rw [if_neg ends] at cut
        cases inner : cutLine bytes with
        | none =>
            rw [inner] at cut
            cases cut
        | some found =>
            rw [inner] at cut
            cases cut
            rw [List.cons_append, ← ih inner]

theorem cutLine_ne_nil {bytes line rest : Bytes} (cut : cutLine bytes = some (line, rest)) :
    line ≠ [] := by
  cases bytes with
  | nil => cases cut
  | cons byte bytes =>
      unfold cutLine at cut
      by_cases ends : byte = lineFeed
      · rw [if_pos ends] at cut
        cases cut
        exact List.cons_ne_nil _ _
      · rw [if_neg ends] at cut
        obtain ⟨found, -, same⟩ := Option.map_eq_some_iff.mp cut
        cases same
        exact List.cons_ne_nil _ _

theorem cutLine_shorter {bytes line rest : Bytes} (cut : cutLine bytes = some (line, rest)) :
    rest.length < bytes.length := by
  have whole := congrArg List.length (cutLine_append cut)
  have notEmpty := List.length_pos_iff.mpr (cutLine_ne_nil cut)
  rw [List.length_append] at whole
  omega

/-- The bytes behind the first empty line. -/
def behindEmptyLine (bytes : Bytes) : Option Bytes :=
  match _cut : cutLine bytes with
  | none => none
  | some (line, rest) => if isEmptyLine line then some rest else behindEmptyLine rest
termination_by bytes.length
decreasing_by exact cutLine_shorter ‹_›

/-- The bytes behind the first empty line after the status line, which is the first line that is not
empty. -/
def behindHead (bytes : Bytes) : Option Bytes :=
  match _cut : cutLine bytes with
  | none => none
  | some (line, rest) => if isEmptyLine line then behindHead rest else behindEmptyLine rest
termination_by bytes.length
decreasing_by exact cutLine_shorter ‹_›

theorem behindEmptyLine_of_cut {bytes line rest : Bytes} (cut : cutLine bytes = some (line, rest)) :
    behindEmptyLine bytes = if isEmptyLine line then some rest else behindEmptyLine rest := by
  rw [behindEmptyLine]
  split
  · rename_i none
    rw [none] at cut
    cases cut
  · rename_i found
    rw [found] at cut
    cases cut
    rfl

theorem behindHead_of_cut {bytes line rest : Bytes} (cut : cutLine bytes = some (line, rest)) :
    behindHead bytes = if isEmptyLine line then behindHead rest else behindEmptyLine rest := by
  rw [behindHead]
  split
  · rename_i none
    rw [none] at cut
    cases cut
  · rename_i found
    rw [found] at cut
    cases cut
    rfl

/-- The bytes are one line and the rest. -/
def IsLine (bytes rest : Bytes) : Prop :=
  ∃ content, lineFeed ∉ content ∧ bytes = content ++ lineFeed :: rest

theorem cutLine_line {content rest : Bytes} (inside : lineFeed ∉ content) :
    cutLine (content ++ lineFeed :: rest) = some (content ++ [lineFeed], rest) := by
  induction content with
  | nil => rfl
  | cons byte content ih =>
      rw [List.mem_cons, not_or] at inside
      obtain ⟨other, inside⟩ := inside
      rw [List.cons_append, cutLine, if_neg (Ne.symm other), ih inside]
      rfl

theorem IsLine.skip {bytes rest : Bytes} (line : IsLine bytes rest) (part : Bytes)
    (inside : lineFeed ∉ part) : IsLine (part ++ bytes) rest := by
  obtain ⟨content, noFeed, same⟩ := line
  subst same
  refine ⟨part ++ content, ?_, (List.append_assoc part content _).symm⟩
  intro member
  rcases List.mem_append.mp member with early | late
  · exact inside early
  · exact noFeed late

theorem IsLine.cut {byte : UInt8} {bytes rest : Bytes} (line : IsLine (byte :: bytes) rest)
    (notFeed : byte ≠ lineFeed) (notReturn : byte ≠ carriageReturn) (more : Bytes) :
    ∃ first, cutLine (byte :: bytes ++ more) = some (first, rest ++ more) ∧
      isEmptyLine first = false := by
  obtain ⟨content, noFeed, same⟩ := line
  refine ⟨content ++ [lineFeed], ?_, ?_⟩
  · rw [same, List.append_assoc, List.cons_append]
    exact cutLine_line noFeed
  · cases content with
    | nil =>
        cases same
        exact absurd rfl notFeed
    | cons first content =>
        cases same
        simp [isEmptyLine, notFeed, notReturn]

/-- A line that starts with the first byte of a name or a version ends no head. -/
theorem IsLine.behindEmptyLine_eq {byte : UInt8} {bytes rest : Bytes}
    (line : IsLine (byte :: bytes) rest) (notFeed : byte ≠ lineFeed)
    (notReturn : byte ≠ carriageReturn) (more : Bytes) :
    behindEmptyLine (byte :: bytes ++ more) = behindEmptyLine (rest ++ more) := by
  obtain ⟨first, cut, notEmpty⟩ := line.cut notFeed notReturn more
  rw [behindEmptyLine_of_cut cut, notEmpty]
  rfl

theorem IsLine.behindHead_eq {byte : UInt8} {bytes rest : Bytes}
    (line : IsLine (byte :: bytes) rest) (notFeed : byte ≠ lineFeed)
    (notReturn : byte ≠ carriageReturn) (more : Bytes) :
    behindHead (byte :: bytes ++ more) = behindEmptyLine (rest ++ more) := by
  obtain ⟨first, cut, notEmpty⟩ := line.cut notFeed notReturn more
  rw [behindHead_of_cut cut, notEmpty]
  rfl

private theorem nextByte_ok {bytes rest : Bytes} {byte : UInt8}
    (read : nextByte bytes = .ok (byte, rest)) : bytes = byte :: rest := by
  cases bytes with
  | nil => cases read
  | cons first others =>
      cases read
      rfl

theorem endLine_ok {problem : HeadProblem} {byte : UInt8} {bytes rest : Bytes}
    (read : endLine problem byte bytes = .ok rest) :
    byte :: bytes = lineFeed :: rest ∨ byte :: bytes = carriageReturn :: lineFeed :: rest := by
  unfold endLine at read
  by_cases feed : byte = lineFeed
  · rw [if_pos feed] at read
    cases read
    exact Or.inl (by rw [feed])
  · rw [if_neg feed] at read
    by_cases return' : byte = carriageReturn
    · rw [if_pos return'] at read
      obtain ⟨⟨second, others⟩, next, read⟩ := bind_ok read
      by_cases feeds : second = lineFeed
      · simp only [if_pos feeds] at read
        cases read
        exact Or.inr (by rw [return', nextByte_ok next, feeds])
      · simp only [if_neg feeds] at read
        cases read
    · rw [if_neg return'] at read
      cases read

theorem endLine_isLine {problem : HeadProblem} {byte : UInt8} {bytes rest : Bytes}
    (read : endLine problem byte bytes = .ok rest) : IsLine (byte :: bytes) rest := by
  rcases endLine_ok read with feed | returned
  · exact ⟨[], List.not_mem_nil, feed⟩
  · exact ⟨[carriageReturn], by decide, returned⟩

private theorem lineFeed_notMem_takeWhile {kind : UInt8 → Bool} (other : kind lineFeed = false)
    (bytes : Bytes) : lineFeed ∉ bytes.takeWhile kind := by
  intro member
  have isKind := List.mem_takeWhile_imp member
  rw [other] at isKind
  cases isKind

/-- Bytes of one kind up to the end of the line. -/
private theorem isLine_of_takeWhile {kind : UInt8 → Bool} {bytes rest others : Bytes} {byte : UInt8}
    {problem : HeadProblem} (other : kind lineFeed = false)
    (next : nextByte (bytes.dropWhile kind) = .ok (byte, others))
    (read : endLine problem byte others = .ok rest) : IsLine bytes rest := by
  have line := endLine_isLine read
  rw [← nextByte_ok next] at line
  rw [← List.takeWhile_append_dropWhile (p := kind) (l := bytes)]
  exact line.skip _ (lineFeed_notMem_takeWhile other bytes)

theorem skipEmptyLines_ok {bytes rest : Bytes} (read : skipEmptyLines bytes = .ok rest) :
    ∃ byte others, rest = byte :: others ∧ byte ≠ lineFeed ∧ byte ≠ carriageReturn ∧
      ∀ more, behindHead (bytes ++ more) = behindHead (rest ++ more) := by
  induction bytes using skipEmptyLines.induct with
  | case1 => cases read
  | case2 bytes ih =>
      unfold skipEmptyLines at read
      rw [if_pos rfl] at read
      obtain ⟨byte, others, same, notFeed, notReturn, behind⟩ := ih read
      refine ⟨byte, others, same, notFeed, notReturn, fun more => ?_⟩
      have cut : cutLine (lineFeed :: bytes ++ more) = some ([lineFeed], bytes ++ more) := rfl
      rw [behindHead_of_cut cut, ← behind more]
      rfl
  | case3 => cases read
  | case4 bytes notFeed ih =>
      unfold skipEmptyLines at read
      rw [if_neg notFeed, if_pos rfl] at read
      simp only [if_true] at read
      obtain ⟨byte, others, same, notFeed, notReturn, behind⟩ := ih read
      refine ⟨byte, others, same, notFeed, notReturn, fun more => ?_⟩
      have cut : cutLine (carriageReturn :: lineFeed :: bytes ++ more) =
          some ([carriageReturn, lineFeed], bytes ++ more) := rfl
      rw [behindHead_of_cut cut, ← behind more]
      rfl
  | case5 second bytes notFeed' notFeed =>
      unfold skipEmptyLines at read
      rw [if_neg notFeed, if_pos rfl] at read
      simp only [if_neg notFeed'] at read
      cases read
  | case6 byte bytes notFeed notReturn =>
      unfold skipEmptyLines at read
      rw [if_neg notFeed, if_neg notReturn] at read
      cases read
      exact ⟨byte, bytes, rfl, notFeed, notReturn, fun _ => rfl⟩

theorem skipVersion_ok {bytes rest : Bytes} (read : skipVersion bytes = .ok rest) :
    ∃ part, bytes = part ++ rest ∧ lineFeed ∉ part := by
  unfold skipVersion at read
  by_cases short : bytes.length < 8
  · rw [if_pos short] at read
    cases read
  · rw [if_neg short] at read
    by_cases fits : (versionStart.isPrefixOf bytes &&
        (bytes.getD 7 0 = 0x30 || bytes.getD 7 0 = 0x31)) = true
    · rw [if_pos fits] at read
      cases read
      rw [Bool.and_eq_true, List.isPrefixOf_iff_prefix] at fits
      obtain ⟨⟨others, split⟩, isDigit⟩ := fits
      have size : versionStart.length = 7 := by decide +kernel
      have noFeed : lineFeed ∉ versionStart := by decide +kernel
      cases others with
      | nil =>
          rw [← split, List.append_nil, size] at short
          omega
      | cons digit others =>
          subst split
          have digitThere : (versionStart ++ digit :: others).getD 7 0 = digit := by
            rw [← size]
            simp
          rw [digitThere] at isDigit
          have regrouped : versionStart ++ digit :: others =
              (versionStart ++ [digit]) ++ others := by
            rw [List.append_assoc, List.singleton_append]
          rw [regrouped, List.drop_left' (by rw [List.length_append, size]; rfl)]
          refine ⟨versionStart ++ [digit], rfl, ?_⟩
          intro member
          rcases List.mem_append.mp member with early | last
          · exact noFeed early
          · rw [← List.mem_singleton.mp last] at isDigit
            cases isDigit
    · rw [if_neg fits] at read
      cases read

theorem readCodeDigit_ok {bytes rest : Bytes} {digit : Nat}
    (read : readCodeDigit bytes = .ok (digit, rest)) :
    ∃ byte, bytes = [byte] ++ rest ∧ lineFeed ∉ [byte] := by
  obtain ⟨⟨byte, others⟩, next, read⟩ := bind_ok read
  by_cases isDigit : (decide (0x30 ≤ byte) && decide (byte ≤ 0x39)) = true
  · simp only [if_pos isDigit] at read
    cases read
    refine ⟨byte, nextByte_ok next, ?_⟩
    intro member
    rw [← List.mem_singleton.mp member] at isDigit
    cases isDigit
  · simp only [if_neg isDigit] at read
    cases read

theorem readReason_ok {bytes reason rest : Bytes} (read : readReason bytes = .ok (reason, rest)) :
    IsLine bytes rest := by
  obtain ⟨⟨byte, others⟩, next, read⟩ := bind_ok read
  obtain ⟨behind, ends, read⟩ := bind_ok read
  cases read
  exact isLine_of_takeWhile rfl next ends

/-- The status line is the first line that is not empty. -/
theorem readStatusLine_ok {bytes reason rest : Bytes} {code : Nat}
    (read : ResponseHead.readStatusLine bytes = .ok (code, reason, rest)) (more : Bytes) :
    behindHead (bytes ++ more) = behindEmptyLine (rest ++ more) := by
  obtain ⟨start, skipped, read⟩ := bind_ok read
  obtain ⟨byte, others, same, notFeed, notReturn, behind⟩ := skipEmptyLines_ok skipped
  rw [behind more]
  subst same
  apply IsLine.behindHead_eq ?_ notFeed notReturn
  obtain ⟨afterVersion, version, read⟩ := bind_ok read
  obtain ⟨part, split, noFeed⟩ := skipVersion_ok version
  rw [split]
  apply IsLine.skip ?_ part noFeed
  obtain ⟨⟨space, afterSpace⟩, next, read⟩ := bind_ok read
  rw [nextByte_ok next]
  by_cases other : space ≠ 0x20
  · simp only [if_pos other] at read
    cases read
  · have isSpace : space = 0x20 := Classical.not_not.mp other
    subst isSpace
    simp only [if_neg other] at read
    apply IsLine.skip ?_ [0x20] (by decide)
    obtain ⟨⟨hundreds, afterHundreds⟩, first, read⟩ := bind_ok read
    obtain ⟨⟨tens, afterTens⟩, second, read⟩ := bind_ok read
    obtain ⟨⟨ones, afterOnes⟩, third, read⟩ := bind_ok read
    obtain ⟨⟨last, behindLast⟩, next, read⟩ := bind_ok read
    dsimp only at second third next read
    obtain ⟨hundredsByte, split, noFeed⟩ := readCodeDigit_ok first
    rw [split]
    apply IsLine.skip ?_ _ noFeed
    obtain ⟨tensByte, split, noFeed⟩ := readCodeDigit_ok second
    rw [split]
    apply IsLine.skip ?_ _ noFeed
    obtain ⟨onesByte, split, noFeed⟩ := readCodeDigit_ok third
    rw [split, nextByte_ok next]
    apply IsLine.skip ?_ _ noFeed
    by_cases hasReason : last = 0x20
    · subst hasReason
      rw [if_pos rfl] at read
      obtain ⟨⟨text, behindReason⟩, reasoned, read⟩ := bind_ok read
      cases read
      exact IsLine.skip (readReason_ok reasoned) [0x20] (by decide)
    · rw [if_neg hasReason] at read
      obtain ⟨behindEnd, ends, read⟩ := bind_ok read
      cases read
      exact endLine_isLine ends

theorem skipHeader_ok {bytes rest : Bytes} (read : skipHeader bytes = .ok rest) :
    IsLine bytes rest := by
  obtain ⟨⟨colon, value⟩, next, read⟩ := bind_ok read
  by_cases other : colon ≠ 0x3a
  · simp only [if_pos other] at read
    cases read
  · have isColon : colon = 0x3a := Classical.not_not.mp other
    subst isColon
    simp only [if_neg other] at read
    obtain ⟨⟨byte, others⟩, ended, read⟩ := bind_ok read
    have noName : isNameByte lineFeed = false := by decide +kernel
    rw [← List.takeWhile_append_dropWhile (p := isNameByte) (l := bytes), nextByte_ok next]
    apply IsLine.skip ?_ _ (lineFeed_notMem_takeWhile noName bytes)
    exact IsLine.skip (isLine_of_takeWhile rfl ended read) [0x3a] (by decide)

/-- Header lines end with an empty line, or start with one of them. -/
theorem skipHeaders_cases {room : Nat} {bytes rest : Bytes}
    (read : skipHeaders room bytes = .ok rest) :
    (bytes = lineFeed :: rest ∨ bytes = carriageReturn :: lineFeed :: rest) ∨
      ∃ byte others fewer behind, bytes = byte :: others ∧ isNameByte byte = true ∧
        skipHeader bytes = .ok behind ∧ room = fewer + 1 ∧ skipHeaders fewer behind = .ok rest := by
  unfold skipHeaders at read
  obtain ⟨⟨byte, others⟩, next, read⟩ := bind_ok read
  have split := nextByte_ok next
  by_cases ends : (byte = lineFeed || byte = carriageReturn) = true
  · simp only [if_pos ends] at read
    rw [split]
    exact Or.inl (endLine_ok read)
  · simp only [if_neg ends] at read
    by_cases name : isNameByte byte = true
    · rw [name] at read
      simp only [Bool.not_true, Bool.false_eq_true, if_false] at read
      obtain ⟨behind, header, read⟩ := bind_ok read
      cases room with
      | zero => cases read
      | succ room => exact Or.inr ⟨byte, others, room, behind, split, name, header, rfl, read⟩
    · rw [Bool.not_eq_true] at name
      rw [name] at read
      cases read

theorem behindEmptyLine_of_empty {bytes rest : Bytes}
    (empty : bytes = lineFeed :: rest ∨ bytes = carriageReturn :: lineFeed :: rest) (more : Bytes) :
    behindEmptyLine (bytes ++ more) = some (rest ++ more) := by
  rcases empty with feed | returned
  · subst feed
    have cut : cutLine (lineFeed :: rest ++ more) = some ([lineFeed], rest ++ more) := rfl
    exact behindEmptyLine_of_cut cut
  · subst returned
    have cut : cutLine (carriageReturn :: lineFeed :: rest ++ more) =
        some ([carriageReturn, lineFeed], rest ++ more) := rfl
    exact behindEmptyLine_of_cut cut

theorem skipHeaders_ok {room : Nat} {bytes rest : Bytes}
    (read : skipHeaders room bytes = .ok rest) (more : Bytes) :
    behindEmptyLine (bytes ++ more) = some (rest ++ more) := by
  induction room generalizing bytes with
  | zero =>
      rcases skipHeaders_cases read with empty | ⟨_, _, _, _, _, _, _, impossible, _⟩
      · exact behindEmptyLine_of_empty empty more
      · cases impossible
  | succ room ih =>
      rcases skipHeaders_cases read with
        empty | ⟨byte, others, fewer, behind, split, name, header, same, further⟩
      · exact behindEmptyLine_of_empty empty more
      · cases same
        have noFeed : isNameByte lineFeed = false := by decide +kernel
        have noReturn : isNameByte carriageReturn = false := by decide +kernel
        have notFeed : byte ≠ lineFeed := by
          intro feed
          rw [feed, noFeed] at name
          cases name
        have notReturn : byte ≠ carriageReturn := by
          intro returns
          rw [returns, noReturn] at name
          cases name
        have line := skipHeader_ok header
        rw [split] at line ⊢
        rw [line.behindEmptyLine_eq notFeed notReturn more]
        exact ih further

theorem behindEmptyLine_suffix {bytes rest : Bytes} (found : behindEmptyLine bytes = some rest) :
    rest <:+ bytes := by
  induction bytes using behindEmptyLine.induct with
  | case1 bytes none =>
      rw [behindEmptyLine] at found
      split at found
      · cases found
      · rename_i cut
        rw [none] at cut
        cases cut
  | case2 bytes line others cut empty =>
      rw [behindEmptyLine_of_cut cut, if_pos empty] at found
      cases found
      exact ⟨line, (cutLine_append cut).symm⟩
  | case3 bytes line others cut notEmpty ih =>
      rw [behindEmptyLine_of_cut cut, if_neg notEmpty] at found
      exact (ih found).trans ⟨line, (cutLine_append cut).symm⟩

theorem behindHead_suffix {bytes rest : Bytes} (found : behindHead bytes = some rest) :
    rest <:+ bytes := by
  induction bytes using behindHead.induct with
  | case1 bytes none =>
      rw [behindHead] at found
      split at found
      · cases found
      · rename_i cut
        rw [none] at cut
        cases cut
  | case2 bytes line others cut empty ih =>
      rw [behindHead_of_cut cut, if_pos empty] at found
      exact (ih found).trans ⟨line, (cutLine_append cut).symm⟩
  | case3 bytes line others cut notEmpty =>
      rw [behindHead_of_cut cut, if_neg notEmpty] at found
      exact (behindEmptyLine_suffix found).trans ⟨line, (cutLine_append cut).symm⟩

/-- Whatever is accepted as a head ends behind the first empty line after the status line. -/
theorem ofBytes_ok {bytes : Bytes} {head : ResponseHead}
    (read : ResponseHead.ofBytes bytes = .ok head) (more : Bytes) :
    behindHead (bytes ++ more) = some (bytes.drop head.length ++ more) := by
  obtain ⟨⟨code, reason, lines⟩, status, read⟩ := bind_ok read
  obtain ⟨rest, headers, read⟩ := bind_ok read
  cases read
  have behind : ∀ more, behindHead (bytes ++ more) = some (rest ++ more) := by
    intro more
    rw [readStatusLine_ok status more]
    exact skipHeaders_ok headers more
  have whole := behind []
  rw [List.append_nil, List.append_nil] at whole
  obtain ⟨front, split⟩ := behindHead_suffix whole
  have cut : bytes.drop (bytes.length - rest.length) = rest := by
    rw [← split, List.length_append, Nat.add_sub_cancel, List.drop_left]
  rw [cut]
  exact behind more

example : behindHead (utf8 "\r\nHTTP/1.1 200 OK\nVia: proxy\r\n\r\nhello") =
    some (utf8 "hello") := by
  decide +kernel

end ProxyDial.Http
