import ProxyDial.Proofs.Http.HeadEnd
import ProxyDial.Proofs.Http.Prefix

set_option autoImplicit false

/-! A head is told by its own bytes. A reader takes some bytes off the start, and it takes the same
ones whatever stands behind them. Where a reader looks at a byte that it does not take, that byte is
taken by the next one. -/

namespace ProxyDial.Http
open Text
open Dial (bind_ok)

variable {α β : Type} {bytes rest : Bytes}

/-- A reader takes bytes off the start and leaves the rest. Its result does not depend on the bytes
that it leaves, except that it hands them on. -/
def Takes (read : Bytes → Except Unread α) (bytes : Bytes) (result : Bytes → α)
    (rest : Bytes) : Prop :=
  ∃ taken, bytes = taken ++ rest ∧ ∀ other, read (taken ++ other) = .ok (result other)

namespace Takes

theorem of_nothing {read : Bytes → Except Unread α} {result : Bytes → α}
    (reads : ∀ other, read other = .ok (result other)) : Takes read rest result rest :=
  ⟨[], rfl, reads⟩

theorem bind {first : Bytes → Except Unread α} {next : α → Except Unread β}
    {middle : Bytes → α} {result : Bytes → β} {behind : Bytes}
    (step : Takes first bytes middle rest)
    (further : Takes (fun rest => next (middle rest)) rest result behind) :
    Takes (fun bytes => first bytes >>= next) bytes result behind := by
  obtain ⟨taken, rfl, reads⟩ := step
  obtain ⟨more, rfl, goes⟩ := further
  refine ⟨taken ++ more, (List.append_assoc taken more behind).symm, ?_⟩
  intro other
  dsimp only
  rw [List.append_assoc, reads]
  exact goes other

end Takes

theorem nextByte_takes {byte : UInt8} (read : nextByte bytes = .ok (byte, rest)) :
    Takes nextByte bytes (byte, ·) rest := by
  cases bytes with
  | nil => cases read
  | cons first others =>
      cases read
      exact ⟨[byte], rfl, fun _ => rfl⟩

theorem endLine_takes {problem : HeadProblem} {byte : UInt8}
    (read : endLine problem byte bytes = .ok rest) :
    Takes (endLine problem byte) bytes id rest := by
  rcases endLine_ok read with feed | returned
  · cases feed
    exact .of_nothing fun _ => rfl
  · cases returned
    exact ⟨[lineFeed], rfl, fun _ => rfl⟩

/-- What follows the empty lines starts with a byte that is looked at and not taken. -/
theorem skipEmptyLines_takes (read : skipEmptyLines bytes = .ok rest) :
    ∃ taken byte others, rest = byte :: others ∧ bytes = taken ++ rest ∧
      ∀ other, skipEmptyLines (taken ++ byte :: other) = .ok (byte :: other) := by
  induction bytes using skipEmptyLines.induct with
  | case1 => cases read
  | case2 bytes ih =>
      rw [skipEmptyLines_lineFeed] at read
      obtain ⟨taken, byte, others, starts, split, reads⟩ := ih read
      refine ⟨lineFeed :: taken, byte, others, starts, by rw [split, List.cons_append], ?_⟩
      intro other
      rw [List.cons_append, skipEmptyLines_lineFeed, reads]
  | case3 => cases read
  | case4 bytes _ ih =>
      rw [skipEmptyLines_carriageReturn] at read
      obtain ⟨taken, byte, others, starts, split, reads⟩ := ih read
      refine ⟨carriageReturn :: lineFeed :: taken, byte, others, starts,
        by rw [split, List.cons_append, List.cons_append], ?_⟩
      intro other
      rw [List.cons_append, List.cons_append, skipEmptyLines_carriageReturn, reads]
  | case5 second bytes notFeed _ =>
      rw [skipEmptyLines_single notFeed] at read
      cases read
  | case6 byte bytes notFeed notReturn =>
      rw [skipEmptyLines_other notFeed notReturn] at read
      cases read
      exact ⟨[], byte, bytes, rfl, rfl, skipEmptyLines_other notFeed notReturn⟩

theorem skipVersion_takes (read : skipVersion bytes = .ok rest) :
    Takes skipVersion bytes id rest := by
  have long : ¬ bytes.length < 8 := by
    intro short
    rw [skipVersion, if_pos short] at read
    cases read
  have decided : ¬ Undecided (skipVersion (bytes.take 8)) := by
    have enough : ¬ (bytes.take 8).length < 8 := by
      rw [List.length_take]
      omega
    unfold Undecided skipVersion
    rw [if_neg enough]
    split
    · exact nofun
    · exact nofun
  have behind : rest = bytes.drop 8 := by
    rw [skipVersion, if_neg long] at read
    split at read
    · cases read
      rfl
    · cases read
  have whole := skipVersion_append decided rest
  rw [behind, List.take_append_drop, ← behind, read] at whole
  refine ⟨bytes.take 8, by rw [behind, List.take_append_drop], ?_⟩
  intro other
  rw [skipVersion_append decided]
  cases left : skipVersion (bytes.take 8) with
  | error unread =>
      rw [left] at whole
      cases whole
  | ok more =>
      rw [left] at whole
      have nothing : rest = more ++ rest := Except.ok.inj whole
      rw [List.self_eq_append_left.mp nothing]
      rfl

theorem readCodeDigit_takes {digit : Nat} (read : readCodeDigit bytes = .ok (digit, rest)) :
    Takes readCodeDigit bytes (digit, ·) rest := by
  obtain ⟨⟨byte, others⟩, next, read⟩ := bind_ok read
  apply (nextByte_takes next).bind
  dsimp only at read ⊢
  split at read
  next isDigit =>
    cases read
    exact .of_nothing fun _ => if_pos isDigit
  · cases read

/-- The first bytes are of one kind, and the next one is of another. -/
theorem exists_span {kind : UInt8 → Bool} {byte : UInt8}
    (read : nextByte (bytes.dropWhile kind) = .ok (byte, rest)) :
    ∃ span, bytes = span ++ byte :: rest ∧ ∀ other,
      (span ++ byte :: other).dropWhile kind = byte :: other ∧
        (span ++ byte :: other).takeWhile kind = span := by
  induction bytes with
  | nil => cases read
  | cons first bytes ih =>
      by_cases same : kind first = true
      · rw [List.dropWhile_cons_of_pos same] at read
        obtain ⟨span, rfl, ends⟩ := ih read
        refine ⟨first :: span, rfl, ?_⟩
        intro other
        rw [List.cons_append, List.dropWhile_cons_of_pos same, List.takeWhile_cons_of_pos same,
          (ends other).1, (ends other).2]
        exact ⟨rfl, rfl⟩
      · rw [List.dropWhile_cons_of_neg same] at read
        cases read
        exact ⟨[], rfl, fun _ => ⟨List.dropWhile_cons_of_neg same, List.takeWhile_cons_of_neg same⟩⟩

theorem nextByte_dropWhile_takes {kind : UInt8 → Bool} {byte : UInt8}
    (read : nextByte (bytes.dropWhile kind) = .ok (byte, rest)) :
    Takes (fun bytes => nextByte (bytes.dropWhile kind)) bytes (byte, ·) rest := by
  obtain ⟨span, rfl, ends⟩ := exists_span read
  refine ⟨span ++ [byte], by simp, ?_⟩
  intro other
  dsimp only
  rw [List.append_assoc, List.singleton_append, (ends other).1]
  rfl

theorem readReason_takes {reason : Bytes} (read : readReason bytes = .ok (reason, rest)) :
    Takes readReason bytes (reason, ·) rest := by
  obtain ⟨⟨byte, others⟩, next, read⟩ := bind_ok read
  obtain ⟨behind, ends, read⟩ := bind_ok read
  cases read
  obtain ⟨span, rfl, kinds⟩ := exists_span next
  obtain ⟨lineEnd, rfl, reads⟩ := endLine_takes ends
  refine ⟨span ++ byte :: lineEnd, by simp, ?_⟩
  intro other
  unfold readReason
  rw [List.append_assoc, List.cons_append, (kinds _).1, (kinds _).2, (kinds _).2]
  dsimp only [nextByte, bind, Except.bind]
  rw [reads]
  rfl

theorem skipHeader_takes (read : skipHeader bytes = .ok rest) :
    Takes skipHeader bytes id rest := by
  obtain ⟨⟨colon, value⟩, next, read⟩ := bind_ok read
  apply (nextByte_dropWhile_takes next).bind
  dsimp only at read ⊢
  split at read
  · cases read
  next isColon =>
    simp only [if_neg isColon]
    obtain ⟨⟨byte, others⟩, next, read⟩ := bind_ok read
    exact (nextByte_dropWhile_takes next).bind (endLine_takes read)

theorem not_lineEnd_of_isNameByte {byte : UInt8} (isName : isNameByte byte = true) :
    ¬ (decide (byte = lineFeed) || decide (byte = carriageReturn)) = true := by
  intro ends
  rcases (Bool.or_eq_true _ _).mp ends with feed | returns
  · rw [of_decide_eq_true feed] at isName
    revert isName
    decide +kernel
  · rw [of_decide_eq_true returns] at isName
    revert isName
    decide +kernel

theorem skipHeaders_takes {room : Nat} (read : skipHeaders room bytes = .ok rest) :
    Takes (skipHeaders room) bytes id rest := by
  induction room generalizing bytes with
  | zero =>
      rcases skipHeaders_cases read with (feed | returns) | ⟨_, _, _, _, _, _, _, none, _⟩
      · exact ⟨[lineFeed], feed, fun _ => rfl⟩
      · exact ⟨[carriageReturn, lineFeed], returns, fun _ => rfl⟩
      · cases none
  | succ room ih =>
      rcases skipHeaders_cases read with (feed | returns) |
        ⟨byte, others, fewer, behind, starts, isName, header, same, read⟩
      · exact ⟨[lineFeed], feed, fun _ => rfl⟩
      · exact ⟨[carriageReturn, lineFeed], returns, fun _ => rfl⟩
      · cases same
        obtain ⟨line, split, skips⟩ := skipHeader_takes header
        obtain ⟨lines, rfl, reads⟩ := ih read
        cases line with
        | nil => cases skips []
        | cons first line =>
            -- The first byte is looked at before the line is read, and the line takes it.
            rw [split, List.cons_append] at starts
            cases starts
            refine ⟨byte :: line ++ lines, by rw [split, List.append_assoc], ?_⟩
            intro other
            have notEnd := not_lineEnd_of_isNameByte isName
            have name : ¬ (!isNameByte byte) = true := by simp [isName]
            have header : skipHeader (byte :: (line ++ (lines ++ other))) = .ok (lines ++ other) :=
              skips (lines ++ other)
            rw [List.append_assoc, List.cons_append]
            unfold skipHeaders
            simp only [nextByte, bind, Except.bind]
            rw [if_neg notEnd, if_neg name, header]
            exact reads other

/-- The byte behind the empty lines is taken by what reads on, since that takes something. -/
theorem Takes.behind_empty_lines {next : Bytes → Except Unread β} {result : Bytes → β}
    {start : Bytes} (skipped : skipEmptyLines bytes = .ok start)
    (further : Takes next start result rest) (waits : ∀ value, next [] ≠ .ok value) :
    Takes (fun bytes => skipEmptyLines bytes >>= next) bytes result rest := by
  obtain ⟨lines, byte, others, starts, rfl, skips⟩ := skipEmptyLines_takes skipped
  obtain ⟨taken, rfl, reads⟩ := further
  cases taken with
  | nil => exact absurd (reads []) (waits _)
  | cons first taken =>
      rw [List.cons_append] at starts
      cases starts
      refine ⟨lines ++ byte :: taken, (List.append_assoc ..).symm, ?_⟩
      intro other
      dsimp only
      rw [List.append_assoc, List.cons_append, skips]
      exact reads other

namespace ResponseHead

theorem readStatusLine_takes {code : Nat} {reason : Bytes}
    (read : readStatusLine bytes = .ok (code, reason, rest)) :
    Takes readStatusLine bytes (code, reason, ·) rest := by
  obtain ⟨start, skipped, read⟩ := bind_ok read
  obtain ⟨afterVersion, version, read⟩ := bind_ok read
  obtain ⟨⟨space, afterSpace⟩, next, read⟩ := bind_ok read
  apply Takes.behind_empty_lines skipped
  case waits => exact nofun
  apply (skipVersion_takes version).bind
  apply (nextByte_takes next).bind
  dsimp only at read ⊢
  split at read
  · cases read
  next isSpace =>
    simp only [if_neg isSpace]
    obtain ⟨⟨hundreds, afterHundreds⟩, first, read⟩ := bind_ok read
    obtain ⟨⟨tens, afterTens⟩, second, read⟩ := bind_ok read
    obtain ⟨⟨ones, afterOnes⟩, third, read⟩ := bind_ok read
    obtain ⟨⟨last, behindLast⟩, next, read⟩ := bind_ok read
    dsimp only at second third next read
    apply (readCodeDigit_takes first).bind
    dsimp only
    apply (readCodeDigit_takes second).bind
    dsimp only
    apply (readCodeDigit_takes third).bind
    dsimp only
    apply (nextByte_takes next).bind
    dsimp only
    split at read
    next hasReason =>
      simp only [if_pos hasReason]
      obtain ⟨⟨text, behindReason⟩, reasoned, read⟩ := bind_ok read
      cases read
      exact (readReason_takes reasoned).bind (.of_nothing fun _ => rfl)
    next noReason =>
      simp only [if_neg noReason]
      obtain ⟨behindEnd, ends, read⟩ := bind_ok read
      cases read
      exact (endLine_takes ends).bind (.of_nothing fun _ => rfl)

/-- The bytes of a head tell it, whatever stands behind them. -/
theorem exists_taken {head : ResponseHead} (read : ofBytes bytes = .ok head) :
    ∃ taken rest, bytes = taken ++ rest ∧ taken.length = head.length ∧
      ∀ other, ofBytes (taken ++ other) = .ok head := by
  obtain ⟨⟨code, reason, lines⟩, status, read⟩ := bind_ok read
  obtain ⟨rest, headers, read⟩ := bind_ok read
  cases read
  obtain ⟨line, rfl, reads⟩ := readStatusLine_takes status
  obtain ⟨headerLines, rfl, skips⟩ := skipHeaders_takes headers
  have own (other : Bytes) : (line ++ (headerLines ++ other)).length - other.length =
      (line ++ headerLines).length := by
    simp only [List.length_append]
    omega
  refine ⟨line ++ headerLines, rest, (List.append_assoc ..).symm, (own rest).symm, ?_⟩
  intro other
  unfold ofBytes
  rw [List.append_assoc, reads]
  dsimp only [bind, Except.bind]
  rw [skips]
  dsimp only [id, pure, Except.pure]
  rw [own other, own rest]

/-- A part that is as long as the head tells the head. -/
theorem ofBytes_of_long {part : Bytes} {head : ResponseHead} (read : ofBytes bytes = .ok head)
    (start : part <+: bytes) (long : head.length ≤ part.length) : ofBytes part = .ok head := by
  obtain ⟨taken, rest, rfl, length, reads⟩ := exists_taken read
  have within : taken <+: part :=
    List.prefix_of_prefix_length_le (List.prefix_append taken rest) start (by omega)
  obtain ⟨other, rfl⟩ := within
  exact reads other

end ResponseHead

end ProxyDial.Http
