import Mathlib.Data.List.TakeWhile
import ProxyDial.Http.Tunnel
import ProxyDial.Proofs.Dial.Outcome

set_option autoImplicit false

/-! A head that is read from the bytes that are there so far. Once it is read, or is malformed, more
bytes change nothing about that; only what is incomplete is open. Each reader hands the bytes that
have come in addition on, behind those that it leaves. -/

namespace ProxyDial.Http
open Text

/-- More bytes are needed to tell. -/
def Undecided {α : Type} (read : Except Unread α) : Prop := read = .error .incomplete

variable {α β : Type}

/-- Two steps of a reader. Where the whole is decided, so is each step that is made. -/
theorem bind_append {first further : Except Unread α} {next nextFurther : α → Except Unread β}
    {handOn : α → α} {handOnLast : β → β} (decided : ¬ Undecided (first >>= next))
    (head : ¬ Undecided first → further = first.map handOn)
    (tail : ∀ value, first = .ok value → ¬ Undecided (next value) →
      nextFurther (handOn value) = (next value).map handOnLast) :
    further >>= nextFurther = (first >>= next).map handOnLast := by
  cases first with
  | error unread =>
      have known : ¬ Undecided (.error unread : Except Unread α) := by
        intro unknown
        exact decided (congrArg (· >>= next) unknown)
      rw [head known]
      rfl
  | ok value =>
      have known : ¬ Undecided (.ok value : Except Unread α) := nofun
      rw [head known]
      exact tail value rfl decided

/-- What has been read, with more bytes behind the rest. -/
abbrev handOn (more : Bytes) (read : α × Bytes) : α × Bytes := (read.1, read.2 ++ more)

theorem nextByte_append {bytes : Bytes} (decided : ¬ Undecided (nextByte bytes)) (more : Bytes) :
    nextByte (bytes ++ more) = (nextByte bytes).map (handOn more) := by
  cases bytes with
  | nil => exact absurd rfl decided
  | cons byte bytes => rfl

theorem endLine_append {problem : HeadProblem} {byte : UInt8} {bytes : Bytes}
    (decided : ¬ Undecided (endLine problem byte bytes)) (more : Bytes) :
    endLine problem byte (bytes ++ more) = (endLine problem byte bytes).map (· ++ more) := by
  unfold endLine at decided ⊢
  by_cases feed : byte = lineFeed
  · simp only [if_pos feed]
    rfl
  · by_cases return' : byte = carriageReturn
    · simp only [if_neg feed, if_pos return'] at decided ⊢
      apply bind_append decided fun known => nextByte_append known more
      rintro ⟨second, rest⟩ _ _
      by_cases feeds : second = lineFeed
      · simp only [if_pos feeds]
        rfl
      · simp only [if_neg feeds]
        rfl
    · simp only [if_neg feed, if_neg return']
      rfl

theorem skipEmptyLines_lineFeed (bytes : Bytes) :
    skipEmptyLines (lineFeed :: bytes) = skipEmptyLines bytes := by
  conv => lhs; unfold skipEmptyLines
  exact if_pos rfl

theorem skipEmptyLines_carriageReturn (bytes : Bytes) :
    skipEmptyLines (carriageReturn :: lineFeed :: bytes) = skipEmptyLines bytes := by
  conv => lhs; unfold skipEmptyLines
  rw [if_neg (by decide), if_pos rfl]
  exact if_pos rfl

theorem skipEmptyLines_single {second : UInt8} (notFeed : second ≠ lineFeed) (bytes : Bytes) :
    skipEmptyLines (carriageReturn :: second :: bytes) = .error (.malformed .newLine) := by
  conv => lhs; unfold skipEmptyLines
  rw [if_neg (by decide), if_pos rfl]
  exact if_neg notFeed

theorem skipEmptyLines_other {byte : UInt8} (notFeed : byte ≠ lineFeed)
    (notReturn : byte ≠ carriageReturn) (bytes : Bytes) :
    skipEmptyLines (byte :: bytes) = .ok (byte :: bytes) := by
  conv => lhs; unfold skipEmptyLines
  rw [if_neg notFeed, if_neg notReturn]

theorem skipEmptyLines_append {bytes : Bytes} (decided : ¬ Undecided (skipEmptyLines bytes))
    (more : Bytes) : skipEmptyLines (bytes ++ more) = (skipEmptyLines bytes).map (· ++ more) := by
  induction bytes using skipEmptyLines.induct with
  | case1 => exact absurd rfl decided
  | case2 bytes ih =>
      rw [skipEmptyLines_lineFeed] at decided ⊢
      rw [List.cons_append, skipEmptyLines_lineFeed]
      exact ih decided
  | case3 => exact absurd rfl decided
  | case4 bytes _ ih =>
      rw [skipEmptyLines_carriageReturn] at decided ⊢
      rw [List.cons_append, List.cons_append, skipEmptyLines_carriageReturn]
      exact ih decided
  | case5 second bytes notFeed _ =>
      rw [List.cons_append, List.cons_append, skipEmptyLines_single notFeed,
        skipEmptyLines_single notFeed]
      rfl
  | case6 byte bytes notFeed notReturn =>
      rw [List.cons_append, skipEmptyLines_other notFeed notReturn,
        skipEmptyLines_other notFeed notReturn]
      rfl

/-- Of a version that has come in part, the part tells whether it can still be one. -/
theorem skipVersion_append {bytes : Bytes} (decided : ¬ Undecided (skipVersion bytes))
    (more : Bytes) : skipVersion (bytes ++ more) = (skipVersion bytes).map (· ++ more) := by
  have size : versionStart.length = 7 := by decide +kernel
  unfold skipVersion at decided ⊢
  by_cases short : bytes.length < 8
  · rw [if_pos short] at decided
    by_cases part : bytes.isPrefixOf versionStart = true
    · rw [if_pos part] at decided
      exact absurd rfl decided
    · have other : ¬ versionStart.isPrefixOf (bytes ++ more) = true := by
        intro start
        rw [List.isPrefixOf_iff_prefix] at start part
        have within : bytes.length ≤ versionStart.length := by omega
        exact part (List.prefix_of_prefix_length_le (List.prefix_append bytes more) start within)
      have whole : ¬ (bytes ++ more).isPrefixOf versionStart = true := by
        intro start
        rw [List.isPrefixOf_iff_prefix] at start part
        exact part ((List.prefix_append bytes more).trans start)
      rw [if_pos short, if_neg part, if_neg whole, Bool.not_eq_true] at *
      simp [other, Except.map]
  · have long : ¬ (bytes ++ more).length < 8 := by
      rw [List.length_append]
      omega
    have sameStart : versionStart.isPrefixOf (bytes ++ more) = versionStart.isPrefixOf bytes := by
      rw [Bool.eq_iff_iff, List.isPrefixOf_iff_prefix, List.isPrefixOf_iff_prefix]
      constructor
      · intro start
        exact List.prefix_of_prefix_length_le start (List.prefix_append bytes more) (by omega)
      · intro start
        exact start.trans (List.prefix_append bytes more)
    have sameDigit : (bytes ++ more).getD 7 0 = bytes.getD 7 0 := by
      rw [List.getD_eq_getElem?_getD, List.getD_eq_getElem?_getD,
        List.getElem?_append_left (by omega)]
    rw [if_neg short, if_neg long, sameStart, sameDigit]
    split
    · rw [List.drop_append_of_le_length (by omega)]
      rfl
    · rfl

theorem readCodeDigit_append {bytes : Bytes} (decided : ¬ Undecided (readCodeDigit bytes))
    (more : Bytes) :
    readCodeDigit (bytes ++ more) = (readCodeDigit bytes).map (handOn more) := by
  apply bind_append decided fun known => nextByte_append known more
  rintro ⟨byte, rest⟩ _ _
  dsimp only [handOn]
  by_cases digit : (decide (0x30 ≤ byte) && decide (byte ≤ 0x39)) = true
  · rw [if_pos digit, if_pos digit]
    rfl
  · rw [if_neg digit, if_neg digit]
    rfl

/-- Where a byte of another kind follows, more bytes do not belong to the first ones. -/
theorem span_append {kind : UInt8 → Bool} {bytes : Bytes}
    (decided : ¬ Undecided (nextByte (bytes.dropWhile kind))) (more : Bytes) :
    (bytes ++ more).dropWhile kind = bytes.dropWhile kind ++ more ∧
      (bytes ++ more).takeWhile kind = bytes.takeWhile kind := by
  induction bytes with
  | nil => exact absurd rfl decided
  | cons byte bytes ih =>
      rw [List.cons_append]
      by_cases same : kind byte = true
      · rw [List.dropWhile_cons_of_pos same] at decided ⊢
        rw [List.dropWhile_cons_of_pos same, List.takeWhile_cons_of_pos same,
          List.takeWhile_cons_of_pos same]
        obtain ⟨dropped, taken⟩ := ih decided
        exact ⟨dropped, congrArg (byte :: ·) taken⟩
      · rw [List.dropWhile_cons_of_neg same, List.dropWhile_cons_of_neg same,
          List.takeWhile_cons_of_neg same, List.takeWhile_cons_of_neg same]
        exact ⟨rfl, rfl⟩

theorem nextByte_dropWhile_append {kind : UInt8 → Bool} {bytes : Bytes}
    (decided : ¬ Undecided (nextByte (bytes.dropWhile kind))) (more : Bytes) :
    nextByte ((bytes ++ more).dropWhile kind) =
      (nextByte (bytes.dropWhile kind)).map (handOn more) := by
  rw [(span_append decided more).1]
  exact nextByte_append decided more

theorem readReason_append {bytes : Bytes} (decided : ¬ Undecided (readReason bytes))
    (more : Bytes) : readReason (bytes ++ more) = (readReason bytes).map (handOn more) := by
  apply bind_append decided fun known => nextByte_dropWhile_append known more
  rintro ⟨byte, rest⟩ next ends
  have known : ¬ Undecided (nextByte (bytes.dropWhile isReasonByte)) := by
    rw [next]
    exact nofun
  rw [(span_append known more).2]
  apply bind_append ends fun known => endLine_append known more
  intro behind _ _
  rfl

theorem skipHeader_append {bytes : Bytes} (decided : ¬ Undecided (skipHeader bytes))
    (more : Bytes) : skipHeader (bytes ++ more) = (skipHeader bytes).map (· ++ more) := by
  apply bind_append decided fun known => nextByte_dropWhile_append known more
  rintro ⟨colon, value⟩ _ ends
  dsimp only [handOn] at ends ⊢
  by_cases other : colon ≠ 0x3a
  · rw [if_pos other, if_pos other]
    rfl
  · rw [if_neg other] at ends ⊢
    rw [if_neg other]
    apply bind_append ends fun known => nextByte_dropWhile_append known more
    rintro ⟨byte, rest⟩ _ ends
    exact endLine_append ends more

theorem skipHeaders_append {room : Nat} {bytes : Bytes}
    (decided : ¬ Undecided (skipHeaders room bytes)) (more : Bytes) :
    skipHeaders room (bytes ++ more) = (skipHeaders room bytes).map (· ++ more) := by
  unfold skipHeaders at decided ⊢
  apply bind_append decided fun known => nextByte_append known more
  rintro ⟨byte, rest⟩ _ ends
  dsimp only at ends ⊢
  by_cases atEnd : (decide (byte = lineFeed) || decide (byte = carriageReturn)) = true
  · simp only [if_pos atEnd] at ends ⊢
    exact endLine_append ends more
  · by_cases other : (!isNameByte byte) = true
    · simp only [if_neg atEnd, if_pos other]
      rfl
    · simp only [if_neg atEnd, if_neg other] at ends ⊢
      apply bind_append ends fun known => skipHeader_append known more
      intro rest _ ends
      cases room with
      | zero => rfl
      | succ room => exact skipHeaders_append ends more

namespace ResponseHead

theorem readStatusLine_append {bytes : Bytes} (decided : ¬ Undecided (readStatusLine bytes))
    (more : Bytes) : readStatusLine (bytes ++ more) =
      (readStatusLine bytes).map fun read => (read.1, handOn more read.2) := by
  apply bind_append decided fun known => skipEmptyLines_append known more
  intro start _ known
  apply bind_append known fun known => skipVersion_append known more
  intro rest _ known
  apply bind_append known fun known => nextByte_append known more
  rintro ⟨space, rest⟩ _ known
  dsimp only at known ⊢
  by_cases other : space ≠ 0x20
  · simp only [if_pos other]
    rfl
  · simp only [if_neg other] at known ⊢
    apply bind_append known fun known => readCodeDigit_append known more
    rintro ⟨hundreds, rest⟩ _ known
    apply bind_append known fun known => readCodeDigit_append known more
    rintro ⟨tens, rest⟩ _ known
    apply bind_append known fun known => readCodeDigit_append known more
    rintro ⟨ones, rest⟩ _ known
    apply bind_append known fun known => nextByte_append known more
    rintro ⟨byte, rest⟩ _ known
    dsimp only at known ⊢
    by_cases hasReason : byte = 0x20
    · simp only [if_pos hasReason] at known ⊢
      apply bind_append known fun known => readReason_append known more
      rintro ⟨reason, rest⟩ _ _
      rfl
    · simp only [if_neg hasReason] at known ⊢
      apply bind_append known fun known => endLine_append known more
      intro rest _ _
      rfl

/-- What is read as a head, or is none, stays so under more bytes. -/
theorem ofBytes_append {bytes : Bytes} (decided : ¬ Undecided (ofBytes bytes)) (more : Bytes) :
    ofBytes (bytes ++ more) = ofBytes bytes := by
  have same : ofBytes (bytes ++ more) = (ofBytes bytes).map id := by
    apply bind_append decided fun known => readStatusLine_append known more
    rintro ⟨code, reason, lines⟩ _ known
    apply bind_append known fun known => skipHeaders_append known more
    intro rest _ _
    have length : (bytes ++ more).length - (rest ++ more).length = bytes.length - rest.length := by
      simp only [List.length_append]
      omega
    dsimp only
    rw [length]
    rfl
  rw [same]
  cases ofBytes bytes <;> rfl

/-- A head is no longer than the bytes that it is read from. -/
theorem length_le {bytes : Bytes} {head : ResponseHead} (read : ofBytes bytes = .ok head) :
    head.length ≤ bytes.length := by
  obtain ⟨⟨code, reason, lines⟩, -, read⟩ := Dial.bind_ok read
  obtain ⟨rest, -, read⟩ := Dial.bind_ok read
  cases read
  exact Nat.sub_le _ _

end ResponseHead

theorem verdict_of_undecided {destination : Destination} {answer : Bytes}
    (undecided : Undecided (ResponseHead.ofBytes answer)) (short : answer.length < maxHeadLength) :
    verdict destination answer = .ok none := by
  have read : ResponseHead.ofBytes answer = .error .incomplete := undecided
  unfold verdict
  rw [read]
  exact if_neg (Nat.not_le_of_lt short)

/-- A verdict on an answer is final. More bytes are bytes of the tunnel. -/
theorem verdict_append {destination : Destination} {answer : Bytes}
    (decided : ¬ Undecided (ResponseHead.ofBytes answer)) (more : Bytes) :
    verdict destination (answer ++ more) =
      (verdict destination answer).map (Option.map (· ++ more)) := by
  unfold verdict
  rw [ResponseHead.ofBytes_append decided more]
  cases read : ResponseHead.ofBytes answer with
  | ok head =>
      dsimp only
      by_cases granted : head.code = 200
      · rw [if_pos granted, if_pos granted,
          List.drop_append_of_le_length (ResponseHead.length_le read)]
        rfl
      · rw [if_neg granted, if_neg granted]
        rfl
  | error unread =>
      cases unread with
      | incomplete => exact absurd read decided
      | malformed problem => rfl

end ProxyDial.Http
