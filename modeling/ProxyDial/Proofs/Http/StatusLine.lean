import Mathlib.Data.List.DropRight
import ProxyDial.Proofs.Http.Fragments
import ProxyDial.Proofs.Http.HeadTaken

set_option autoImplicit false

/-! What a proxy has written in the status line of its reply, and what is read there: the line is
found behind empty lines, and the status in it behind the version. -/

namespace ProxyDial.Http
open Text
open Dial (bind_ok)

/-- The first line that is not empty, with its end. -/
def statusLine (bytes : Bytes) : Option Bytes :=
  match _cut : cutLine bytes with
  | none => none
  | some (line, rest) => if isEmptyLine line then statusLine rest else some line
termination_by bytes.length
decreasing_by exact cutLine_shorter ‹_›

def isLineEnd (byte : UInt8) : Bool := byte = lineFeed || byte = carriageReturn

def isBlankByte (byte : UInt8) : Bool := byte = 0x20 || byte = 0x09

/-- The status as the proxy has written it: what stands behind the version and a space in the status
line, without blanks at its end. -/
def writtenStatus (reply : Bytes) : Option Bytes :=
  (statusLine reply).map fun line =>
    (((line.rdropWhile isLineEnd).dropWhile (· ≠ 0x20)).drop 1).rdropWhile isBlankByte

def codeDigit (value : Nat) : UInt8 := UInt8.ofNat (0x30 + value)

/-- What stands behind a code, and the reason phrase that is read from it. -/
inductive WritesReason : (reason tail : Bytes) → Prop
  | missing : WritesReason [] []
  | phrase {phrase : Bytes} (kinds : ∀ byte ∈ phrase, isReasonByte byte = true) :
      WritesReason (if phrase.all (· < 0x80) then phrase else []) (0x20 :: phrase)

/-- A status line from the code on, and what is read from it. -/
inductive WritesCode : (code : Nat) → (reason line : Bytes) → Prop
  | digits {hundreds tens ones : Nat} {reason tail : Bytes}
      (small : hundreds < 10 ∧ tens < 10 ∧ ones < 10) (behind : WritesReason reason tail) :
      WritesCode (100 * hundreds + 10 * tens + ones) reason
        (codeDigit hundreds :: codeDigit tens :: codeDigit ones :: tail)

section
variable {α : Type} {p : α → Bool}

theorem rdropWhile_append_of_all {back : List α} (front : List α) (all : ∀ a ∈ back, p a = true) :
    (front ++ back).rdropWhile p = front.rdropWhile p := by
  unfold List.rdropWhile
  rw [List.reverse_append, List.dropWhile_append_of_pos]
  intro a member
  exact all a (List.mem_reverse.mp member)

theorem rdropWhile_append_cons {stop : α} (stops : p stop = false) (front back : List α) :
    (front ++ stop :: back).rdropWhile p = front ++ stop :: back.rdropWhile p := by
  have kept : ¬ p stop = true := by simp [stops]
  induction back using List.reverseRecOn with
  | nil => exact List.rdropWhile_concat_neg p front stop kept
  | append_singleton back last ih =>
      have regrouped : front ++ stop :: (back ++ [last]) = (front ++ stop :: back) ++ [last] := by
        simp
      rw [regrouped, List.rdropWhile_concat, List.rdropWhile_concat, ih]
      split
      · rfl
      · exact regrouped.symm

end

theorem statusLine_of_cut {bytes line rest : Bytes} (cut : cutLine bytes = some (line, rest)) :
    statusLine bytes = if isEmptyLine line then statusLine rest else some line := by
  rw [statusLine]
  split
  · rename_i none
    rw [none] at cut
    cases cut
  · rename_i found
    rw [found] at cut
    cases cut
    rfl

variable {bytes rest : Bytes}

theorem skipEmptyLines_statusLine (read : skipEmptyLines bytes = .ok rest) :
    statusLine bytes = statusLine rest := by
  induction bytes using skipEmptyLines.induct with
  | case1 => cases read
  | case2 bytes ih =>
      rw [skipEmptyLines_lineFeed] at read
      have cut : cutLine (lineFeed :: bytes) = some ([lineFeed], bytes) := rfl
      rw [statusLine_of_cut cut, ← ih read]
      rfl
  | case3 => cases read
  | case4 bytes _ ih =>
      rw [skipEmptyLines_carriageReturn] at read
      have cut : cutLine (carriageReturn :: lineFeed :: bytes) =
          some ([carriageReturn, lineFeed], bytes) := rfl
      rw [statusLine_of_cut cut, ← ih read]
      rfl
  | case5 second bytes notFeed _ =>
      rw [skipEmptyLines_single notFeed] at read
      cases read
  | case6 byte bytes notFeed notReturn =>
      rw [skipEmptyLines_other notFeed notReturn] at read
      cases read
      rfl

theorem skipVersion_version (read : skipVersion bytes = .ok rest) :
    ∃ digit, (digit = 0x30 ∨ digit = 0x31) ∧ bytes = versionStart ++ digit :: rest := by
  unfold skipVersion at read
  split at read
  · cases read
  next long =>
    split at read
    next fits =>
      cases read
      rw [Bool.and_eq_true, List.isPrefixOf_iff_prefix] at fits
      obtain ⟨⟨others, split⟩, isDigit⟩ := fits
      have size : versionStart.length = 7 := by decide +kernel
      cases others with
      | nil =>
          rw [← split, List.append_nil, size] at long
          omega
      | cons digit others =>
          subst split
          have digitThere : (versionStart ++ digit :: others).getD 7 0 = digit := by
            rw [← size]
            simp
          have regrouped : versionStart ++ digit :: others =
              (versionStart ++ [digit]) ++ others := by
            rw [List.append_assoc, List.singleton_append]
          rw [digitThere] at isDigit
          refine ⟨digit, by simpa using isDigit, ?_⟩
          rw [regrouped, List.drop_left' (by rw [List.length_append, size]; rfl),
            List.append_assoc, List.singleton_append]
    · cases read

theorem nextByte_eq_ok {byte : UInt8} (read : nextByte bytes = .ok (byte, rest)) :
    bytes = byte :: rest := by
  cases bytes with
  | nil => cases read
  | cons first bytes =>
      cases read
      rfl

theorem readCodeDigit_digit {digit : Nat} (read : readCodeDigit bytes = .ok (digit, rest)) :
    digit < 10 ∧ bytes = codeDigit digit :: rest := by
  obtain ⟨⟨byte, others⟩, next, judged⟩ := bind_ok read
  dsimp only at judged
  split at judged
  next isDigit =>
    cases judged
    rw [Bool.and_eq_true, decide_eq_true_eq, decide_eq_true_eq, UInt8.le_iff_toNat_le,
      UInt8.le_iff_toNat_le] at isDigit
    simp only [UInt8.reduceToNat] at isDigit
    have value : 0x30 + (byte.toNat - 0x30) = byte.toNat := by omega
    constructor
    · omega
    · rw [nextByte_eq_ok next, codeDigit, value, UInt8.ofNat_toNat]
  · cases judged

/-- A line end and the rest behind it. -/
def EndsLine (ending rest : Bytes) : Prop :=
  ∃ mark, (mark = [] ∨ mark = [carriageReturn]) ∧ ending = mark ++ lineFeed :: rest

theorem endLine_endsLine {problem : HeadProblem} {byte : UInt8}
    (read : endLine problem byte bytes = .ok rest) : EndsLine (byte :: bytes) rest := by
  rcases endLine_ok read with feed | returned
  · exact ⟨[], .inl rfl, feed⟩
  · exact ⟨[carriageReturn], .inr rfl, returned⟩

theorem readReason_span {reason : Bytes} (read : readReason bytes = .ok (reason, rest)) :
    (∀ byte ∈ reason, isReasonByte byte = true) ∧
      ∃ ending, EndsLine ending rest ∧ bytes = reason ++ ending := by
  obtain ⟨⟨byte, others⟩, next, read⟩ := bind_ok read
  obtain ⟨behind, ends, read⟩ := bind_ok read
  cases read
  constructor
  · exact fun byte member => List.mem_takeWhile_imp member
  · refine ⟨byte :: others, endLine_endsLine ends, ?_⟩
    rw [← nextByte_eq_ok next, List.takeWhile_append_dropWhile]

theorem not_isLineEnd_of_isReasonByte {byte : UInt8} (kind : isReasonByte byte = true) :
    isLineEnd byte = false := by
  by_contra ends
  rw [Bool.not_eq_false, isLineEnd, Bool.or_eq_true, decide_eq_true_eq, decide_eq_true_eq] at ends
  rcases ends with rfl | rfl
  · cases kind
  · cases kind

theorem not_isLineEnd_codeDigit : ∀ value < 10, isLineEnd (codeDigit value) = false := by decide

theorem WritesReason.not_isLineEnd {reason tail : Bytes} (writes : WritesReason reason tail) :
    ∀ byte ∈ tail, isLineEnd byte = false := by
  intro byte member
  cases writes with
  | missing => cases member
  | phrase kinds =>
      rcases List.mem_cons.mp member with rfl | member
      · rfl
      · exact not_isLineEnd_of_isReasonByte (kinds byte member)

theorem WritesCode.not_isLineEnd {code : Nat} {reason line : Bytes}
    (writes : WritesCode code reason line) : ∀ byte ∈ line, isLineEnd byte = false := by
  cases writes with
  | digits small behind =>
      obtain ⟨first, second, third⟩ := small
      simp only [List.forall_mem_cons]
      exact ⟨not_isLineEnd_codeDigit _ first, not_isLineEnd_codeDigit _ second,
        not_isLineEnd_codeDigit _ third, behind.not_isLineEnd⟩

theorem rdropWhile_eq_self_of_none {text : Bytes} (none : ∀ byte ∈ text, isLineEnd byte = false) :
    text.rdropWhile isLineEnd = text := by
  rw [List.rdropWhile_eq_self_iff]
  intro notEmpty ends
  rw [none _ (List.getLast_mem notEmpty)] at ends
  cases ends

/-- Behind the version and a space, up to the end of the line, there is the status. -/
theorem writtenStatus_of_line {version : UInt8} (known : version = 0x30 ∨ version = 0x31)
    {line ending : Bytes} (inside : ∀ byte ∈ line, isLineEnd byte = false)
    (ends : EndsLine ending rest) :
    writtenStatus (versionStart ++ version :: 0x20 :: (line ++ ending)) =
      some (line.rdropWhile isBlankByte) := by
  obtain ⟨mark, marks, rfl⟩ := ends
  have start : ∀ byte ∈ versionStart ++ [version],
      isLineEnd byte = false ∧ decide (byte ≠ 0x20) = true := by
    rcases known with rfl | rfl
    · decide +kernel
    · decide +kernel
  have content : ∀ byte ∈ versionStart ++ [version] ++ 0x20 :: line, isLineEnd byte = false := by
    intro byte member
    rcases List.mem_append.mp member with early | late
    · exact (start byte early).1
    · rcases List.mem_cons.mp late with rfl | member
      · rfl
      · exact inside byte member
  have notFeed : lineFeed ∉ (versionStart ++ [version] ++ 0x20 :: line) ++ mark := by
    intro member
    rcases List.mem_append.mp member with early | late
    · cases content _ early
    · rcases marks with rfl | rfl
      · cases late
      · revert late
        decide
  have ending : (mark ++ [lineFeed]).all isLineEnd = true := by
    rcases marks with rfl | rfl
    · rfl
    · rfl
  have first : versionStart = 0x48 :: versionStart.tail := by decide +kernel
  have regrouped : versionStart ++ version :: 0x20 :: (line ++ (mark ++ lineFeed :: rest)) =
      ((versionStart ++ [version] ++ 0x20 :: line) ++ mark) ++ lineFeed :: rest := by simp
  have notEmpty : ¬ isEmptyLine
      ((versionStart ++ [version] ++ 0x20 :: line) ++ mark ++ [lineFeed]) = true := by
    rw [first]
    simp [isEmptyLine, lineFeed, carriageReturn]
  unfold writtenStatus
  rw [regrouped, statusLine_of_cut (cutLine_line notFeed), if_neg notEmpty, Option.map_some,
    List.append_assoc, rdropWhile_append_of_all _ (List.all_eq_true.mp ending),
    rdropWhile_eq_self_of_none content,
    List.dropWhile_append_of_pos fun byte member => (start byte member).2,
    List.dropWhile_cons_of_neg (by decide)]
  rfl

/-- What is read of a status line is what the proxy has written there. -/
theorem readStatusLine_writes {code : Nat} {reason : Bytes}
    (read : ResponseHead.readStatusLine bytes = .ok (code, reason, rest)) :
    ∃ line, WritesCode code reason line ∧
      writtenStatus bytes = some (line.rdropWhile isBlankByte) := by
  obtain ⟨start, skipped, read⟩ := bind_ok read
  have same : writtenStatus bytes = writtenStatus start := by
    unfold writtenStatus
    rw [skipEmptyLines_statusLine skipped]
  obtain ⟨afterVersion, version, read⟩ := bind_ok read
  obtain ⟨digit, known, splitStart⟩ := skipVersion_version version
  obtain ⟨⟨space, afterSpace⟩, next, read⟩ := bind_ok read
  have split := nextByte_eq_ok next
  dsimp only at read
  split at read
  · cases read
  next isSpace =>
    rw [Classical.not_not.mp isSpace] at split
    obtain ⟨⟨hundreds, afterHundreds⟩, first, read⟩ := bind_ok read
    obtain ⟨⟨tens, afterTens⟩, second, read⟩ := bind_ok read
    obtain ⟨⟨ones, afterOnes⟩, third, read⟩ := bind_ok read
    obtain ⟨⟨last, behindLast⟩, next, read⟩ := bind_ok read
    dsimp only at second third next read
    obtain ⟨small, splitHundreds⟩ := readCodeDigit_digit first
    obtain ⟨smallTens, splitTens⟩ := readCodeDigit_digit second
    obtain ⟨smallOnes, splitOnes⟩ := readCodeDigit_digit third
    have splitLast := nextByte_eq_ok next
    -- Behind the digits comes the end of the line, or a space and then the phrase.
    have behind : ∃ tail ending, code = 100 * hundreds + 10 * tens + ones ∧
        WritesReason reason tail ∧ EndsLine ending rest ∧ last :: behindLast = tail ++ ending := by
      split at read
      next hasReason =>
        obtain ⟨⟨phrase, behindReason⟩, reasoned, read⟩ := bind_ok read
        cases read
        obtain ⟨kinds, ending, ends, splitReason⟩ := readReason_span reasoned
        refine ⟨0x20 :: phrase, ending, rfl, .phrase kinds, ends, ?_⟩
        rw [hasReason, splitReason, List.cons_append]
      · obtain ⟨behindEnd, ends, read⟩ := bind_ok read
        cases read
        exact ⟨[], last :: behindLast, rfl, .missing, endLine_endsLine ends, rfl⟩
    obtain ⟨tail, ending, rfl, reasons, ends, splitTail⟩ := behind
    have writes := WritesCode.digits ⟨small, smallTens, smallOnes⟩ reasons
    refine ⟨_, writes, ?_⟩
    rw [same, splitStart, split, splitHundreds, splitTens, splitOnes, splitLast, splitTail]
    exact writtenStatus_of_line known writes.not_isLineEnd ends

end ProxyDial.Http
