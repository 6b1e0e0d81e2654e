import ProxyDial.Proofs.Http.StatusLine
import ProxyDial.Proofs.Text.Base64

set_option autoImplicit false

/-! The status that a refusal tells. It is put together from the code, as a number, and the reason
phrase, where this is ASCII. So it is what the proxy has written in most replies, but a code that
starts with zero loses it, and a phrase with other characters is left out. -/

namespace ProxyDial.Http
open Text
open Dial (bind_ok)

/-- The digits of a code as a number, without zeros in front. -/
def withoutZeros (digits : Bytes) : Bytes := (digits.take 2).dropWhile (· = 0x30) ++ digits.drop 2

/-- How a status is reported that has been written so: zeros in front of its number are lost, and so
is the phrase where any of it is not ASCII. -/
def reportedStatus (written : Bytes) : Bytes :=
  withoutZeros (written.take 3) ++ if written.all (· < 0x80) then written.drop 3 else []

theorem all_rdropWhile {α : Type} {p q : α → Bool}
    (weaker : ∀ a, p a = true → q a = true) (text : List α) :
    (text.rdropWhile p).all q = text.all q := by
  induction text using List.reverseRecOn with
  | nil => rfl
  | append_singleton front last ih =>
      rw [List.rdropWhile_concat]
      split
      next dropped => rw [ih, List.all_append, List.all_cons, weaker last dropped, List.all_nil,
        Bool.and_true, Bool.and_true]
      · rfl

theorem toDigits_code {hundreds tens ones : Nat} (small : hundreds < 10 ∧ tens < 10 ∧ ones < 10) :
    (Nat.toDigits 10 (100 * hundreds + 10 * tens + ones)).map (fun c => UInt8.ofNat c.toNat) =
      withoutZeros [codeDigit hundreds, codeDigit tens, codeDigit ones] := by
  obtain ⟨smallHundreds, smallTens, smallOnes⟩ := small
  have digit : ∀ value < 10, (Nat.toDigits 10 value).map (fun c => UInt8.ofNat c.toNat) =
      [codeDigit value] := by decide
  have zero : ∀ value < 10, decide (codeDigit value = 0x30) = decide (value = 0) := by decide
  have further (front last : Nat) (positive : 0 < front) (small : last < 10) :
      Nat.toDigits 10 (10 * front + last) = Nat.toDigits 10 front ++ Nat.toDigits 10 last :=
    (Nat.toDigits_append_toDigits (by decide) positive small).symm
  have regrouped : 100 * hundreds + 10 * tens + ones = 10 * (10 * hundreds + tens) + ones := by
    omega
  unfold withoutZeros
  by_cases noHundreds : hundreds = 0
  · subst noHundreds
    by_cases noTens : tens = 0
    · subst noTens
      rw [Nat.mul_zero, Nat.zero_add, digit ones smallOnes]
      rfl
    · have positive := Nat.pos_of_ne_zero noTens
      have front : codeDigit 0 = 0x30 := rfl
      rw [Nat.mul_zero, Nat.zero_add, further tens ones positive smallOnes, List.map_append,
        digit tens smallTens, digit ones smallOnes]
      simp [front, zero tens smallTens, noTens]
  · have positive := Nat.pos_of_ne_zero noHundreds
    rw [regrouped, further _ ones (by omega) smallOnes, further hundreds tens positive smallTens,
      List.map_append, List.map_append, digit hundreds smallHundreds, digit tens smallTens,
      digit ones smallOnes]
    simp [zero hundreds smallHundreds, noHundreds]

theorem lossyChars_of_ascii {text : Bytes} (ascii : ∀ byte ∈ text, byte < 0x80) :
    lossyChars text = text.map fun byte => Char.ofNat byte.toNat := by
  induction text with
  | nil =>
      unfold lossyChars
      rfl
  | cons byte text ih =>
      have single : charLength byte = 1 := if_pos (ascii byte List.mem_cons_self)
      have first : firstChar byte text = (Char.ofNat byte.toNat, 1) := by
        unfold firstChar
        rw [single]
        rfl
      unfold lossyChars
      rw [first]
      dsimp only
      rw [List.drop_zero, ih fun other member => ascii other (List.mem_cons_of_mem _ member)]
      rfl

theorem utf8_lossy_of_ascii {text : Bytes} (ascii : ∀ byte ∈ text, byte < 0x80) :
    utf8 (lossy text) = text := by
  have small (byte : UInt8) (member : byte ∈ text) :
      byte.toNat < 128 ∧ (Char.ofNat byte.toNat).toNat = byte.toNat := by
    have below := UInt8.lt_iff_toNat_lt.mp (ascii byte member)
    simp only [UInt8.reduceToNat] at below
    have same : ∀ number : Fin 128, (Char.ofNat number.val).toNat = number.val := by decide +kernel
    exact ⟨below, same ⟨byte.toNat, below⟩⟩
  have chars : ∀ c ∈ text.map fun byte => Char.ofNat byte.toNat, c.toNat < 128 := by
    intro c member
    obtain ⟨byte, there, rfl⟩ := List.mem_map.mp member
    rw [(small byte there).2]
    exact (small byte there).1
  rw [lossy, lossyChars_of_ascii ascii, utf8_ofList_of_ascii chars, List.map_map]
  have same : text.map ((fun c => UInt8.ofNat c.toNat) ∘ fun byte => Char.ofNat byte.toNat) =
      text.map id := by
    apply List.map_congr_left
    intro byte member
    dsimp only [Function.comp]
    rw [(small byte member).2, UInt8.ofNat_toNat]
    rfl
  rw [same, List.map_id]

theorem codeDigit_facts : ∀ value < 10,
    isBlankByte (codeDigit value) = false ∧ codeDigit value < 0x80 := by decide

theorem WritesReason.ascii {reason tail : Bytes} (writes : WritesReason reason tail) :
    ∀ byte ∈ reason, byte < 0x80 := by
  cases writes with
  | missing => exact nofun
  | @phrase phrase kinds =>
      split
      next ascii =>
        intro byte member
        exact of_decide_eq_true (List.all_eq_true.mp ascii byte member)
      · exact nofun

theorem ascii_of_isBlankByte (byte : UInt8) (blank : isBlankByte byte = true) :
    decide (byte < 0x80) = true := by
  rw [isBlankByte, Bool.or_eq_true, decide_eq_true_eq, decide_eq_true_eq] at blank
  rcases blank with rfl | rfl
  · rfl
  · rfl

/-- The phrase is kept as it is written, or it is left out. -/
theorem WritesReason.kept {reason tail : Bytes} (writes : WritesReason reason tail) :
    (0x20 :: reason).rdropWhile isBlankByte =
      if tail.all (· < 0x80) then tail.rdropWhile isBlankByte else [] := by
  cases writes with
  | missing => rfl
  | @phrase phrase kinds =>
      have space : (0x20 :: phrase).all (· < 0x80) = phrase.all (· < 0x80) := rfl
      rw [space]
      split
      · rfl
      · rfl

theorem utf8_code {hundreds tens ones : Nat} (small : hundreds < 10 ∧ tens < 10 ∧ ones < 10) :
    utf8 (toString (100 * hundreds + 10 * tens + ones) ++ " ") =
      withoutZeros [codeDigit hundreds, codeDigit tens, codeDigit ones] ++ [0x20] := by
  have ascii : ∀ c ∈ Nat.toDigits 10 (100 * hundreds + 10 * tens + ones), c.toNat < 128 := by
    intro c digit
    have isDigit := Nat.isDigit_of_mem_toDigits (by decide) (by decide) digit
    simp only [Char.isDigit, Bool.and_eq_true, decide_eq_true_eq] at isDigit
    have below : c.toNat ≤ 57 := isDigit.2
    omega
  have number : toString (100 * hundreds + 10 * tens + ones) =
      String.ofList (Nat.toDigits 10 (100 * hundreds + 10 * tens + ones)) := rfl
  have space : utf8 " " = [0x20] := by decide +kernel
  rw [utf8_append, number, utf8_ofList_of_ascii ascii, toDigits_code small, space]

theorem withoutZeros_code (hundreds tens ones : Nat) :
    ∃ front, withoutZeros [codeDigit hundreds, codeDigit tens, codeDigit ones] =
      front ++ [codeDigit ones] :=
  ⟨_, rfl⟩

theorem ascii_of_mem_withoutZeros {digits : Bytes} (ascii : ∀ byte ∈ digits, byte < 0x80) :
    ∀ byte ∈ withoutZeros digits, byte < 0x80 := by
  intro byte member
  rcases List.mem_append.mp member with early | late
  · exact ascii byte (List.mem_of_mem_take (List.dropWhile_sublist _ |>.mem early))
  · exact ascii byte (List.mem_of_mem_drop late)

theorem digits_plain {hundreds tens ones : Nat}
    (small : hundreds < 10 ∧ tens < 10 ∧ ones < 10) :
    ∀ byte ∈ [codeDigit hundreds, codeDigit tens, codeDigit ones],
      isBlankByte byte = false ∧ byte < 0x80 := by
  simp only [List.forall_mem_cons]
  exact ⟨codeDigit_facts _ small.1, codeDigit_facts _ small.2.1, codeDigit_facts _ small.2.2, nofun⟩

/-- Blanks at the end of a line are behind its digits. -/
theorem rdropWhile_digits {hundreds tens ones : Nat} (small : ones < 10) (tail : Bytes) :
    (codeDigit hundreds :: codeDigit tens :: codeDigit ones :: tail).rdropWhile isBlankByte =
      codeDigit hundreds :: codeDigit tens :: codeDigit ones :: tail.rdropWhile isBlankByte :=
  rdropWhile_append_cons (codeDigit_facts ones small).1 [codeDigit hundreds, codeDigit tens] tail

/-- The number, a space and the phrase, without blanks at the end, are the status as it is reported
of what the proxy has written. -/
theorem WritesCode.status {code : Nat} {reason line : Bytes} (writes : WritesCode code reason line)
    (length : Nat) : utf8 (ResponseHead.status ⟨code, reason, length⟩) =
      reportedStatus (line.rdropWhile isBlankByte) := by
  cases writes with
  | @digits hundreds tens ones reason tail small behind =>
      have facts := digits_plain small
      have stops := (codeDigit_facts ones small.2.2).1
      have ascii : ∀ byte ∈ utf8 (toString (100 * hundreds + 10 * tens + ones) ++ " ") ++ reason,
          byte < 0x80 := by
        intro byte member
        rw [utf8_code small, List.append_assoc] at member
        rcases List.mem_append.mp member with early | late
        · exact ascii_of_mem_withoutZeros (fun byte digit => (facts byte digit).2) byte early
        · rcases List.mem_cons.mp late with rfl | member
          · decide
          · exact behind.ascii byte member
      have digits : [codeDigit hundreds, codeDigit tens, codeDigit ones].all (· < 0x80) = true :=
        List.all_eq_true.mpr fun byte digit => decide_eq_true (facts byte digit).2
      obtain ⟨front, last⟩ := withoutZeros_code hundreds tens ones
      have cut : (utf8 (toString (100 * hundreds + 10 * tens + ones) ++ " ") ++
          reason).rdropWhile isBlankByte =
            withoutZeros [codeDigit hundreds, codeDigit tens, codeDigit ones] ++
              (0x20 :: reason).rdropWhile isBlankByte := by
        rw [utf8_code small, last, List.append_assoc, List.append_assoc, List.append_assoc]
        exact rdropWhile_append_cons stops front (0x20 :: reason)
      have kept : ∀ byte ∈ (utf8 (toString (100 * hundreds + 10 * tens + ones) ++ " ") ++
          reason).rdropWhile isBlankByte, byte < 0x80 :=
        fun byte member => ascii byte ((List.rdropWhile_prefix _ _).sublist.mem member)
      calc utf8 (ResponseHead.status ⟨100 * hundreds + 10 * tens + ones, reason, length⟩)
          = (utf8 (toString (100 * hundreds + 10 * tens + ones) ++ " ") ++
              reason).rdropWhile isBlankByte := utf8_lossy_of_ascii kept
        _ = withoutZeros [codeDigit hundreds, codeDigit tens, codeDigit ones] ++
              if tail.all (· < 0x80) then tail.rdropWhile isBlankByte else [] := by
            rw [cut, behind.kept]
        _ = reportedStatus ([codeDigit hundreds, codeDigit tens, codeDigit ones] ++
              tail.rdropWhile isBlankByte) := by
            rw [reportedStatus, List.all_append, digits, Bool.true_and,
              all_rdropWhile ascii_of_isBlankByte]
            rfl
        _ = _ := by rw [rdropWhile_digits small.2.2 tail, List.cons_append, List.cons_append,
              List.singleton_append]

/-- A status is reported as it is written just where nothing of it is lost. -/
theorem reportedStatus_eq_self_iff {hundreds tens ones : UInt8} {behind : Bytes}
    (digits : ∀ byte ∈ [hundreds, tens, ones], byte < 0x80) :
    reportedStatus (hundreds :: tens :: ones :: behind) = hundreds :: tens :: ones :: behind ↔
      hundreds ≠ 0x30 ∧ ∀ byte ∈ hundreds :: tens :: ones :: behind, byte < 0x80 := by
  have front : withoutZeros [hundreds, tens, ones] = [hundreds, tens, ones] ↔ hundreds ≠ 0x30 := by
    unfold withoutZeros
    constructor
    · rintro same rfl
      have size := congrArg List.length same
      have short := (List.dropWhile_sublist (l := [tens]) (· = 0x30)).length_le
      simp only [List.take_succ_cons, List.take_zero, List.drop_succ_cons, List.drop_zero,
        List.dropWhile_cons_of_pos, decide_true, List.length_append, List.length_cons,
        List.length_nil] at size short
      omega
    · intro kept
      rw [List.take_succ_cons, List.dropWhile_cons_of_neg (by simpa using kept)]
      rfl
  have short : (withoutZeros [hundreds, tens, ones]).length ≤ 3 := by
    have drops := (List.dropWhile_sublist (l := [hundreds, tens]) (· = 0x30)).length_le
    simp only [withoutZeros, List.take_succ_cons, List.take_zero, List.drop_succ_cons,
      List.drop_zero, List.length_append, List.length_cons, List.length_nil] at drops ⊢
    omega
  have kept : reportedStatus (hundreds :: tens :: ones :: behind) =
      withoutZeros [hundreds, tens, ones] ++
        if (hundreds :: tens :: ones :: behind).all (· < 0x80) then behind else [] := rfl
  rw [kept]
  constructor
  · intro same
    split at same
    next ascii =>
      constructor
      · exact front.mp (List.append_cancel_right same)
      · exact fun byte member => of_decide_eq_true (List.all_eq_true.mp ascii byte member)
    next foreign =>
      -- What is left is too short, but for a status that is no more than its digits.
      have size := congrArg List.length same
      rw [List.append_nil] at size
      simp only [List.length_cons] at size
      have nothing : behind = [] := List.eq_nil_of_length_eq_zero (by omega)
      subst nothing
      exact absurd (List.all_eq_true.mpr fun byte member => decide_eq_true (digits byte member))
        foreign
  · rintro ⟨noZero, ascii⟩
    rw [if_pos (List.all_eq_true.mpr fun byte member => decide_eq_true (ascii byte member)),
      front.mpr noZero]
    rfl

theorem WritesCode.reportedStatus_eq_self_iff {code : Nat} {reason line : Bytes}
    (writes : WritesCode code reason line) :
    reportedStatus (line.rdropWhile isBlankByte) = line.rdropWhile isBlankByte ↔
      (line.rdropWhile isBlankByte).head? ≠ some 0x30 ∧
        ∀ byte ∈ line.rdropWhile isBlankByte, byte < 0x80 := by
  cases writes with
  | @digits hundreds tens ones reason tail small behind =>
      rw [rdropWhile_digits small.2.2 tail,
        Http.reportedStatus_eq_self_iff fun byte digit => (digits_plain small byte digit).2,
        List.head?_cons, Ne, Ne, Option.some.injEq]

variable {reply : Bytes} {head : ResponseHead} {ending : Ending}

/-- The status of a head is made of what the proxy has written in its status line. -/
theorem ofBytes_writes (read : ResponseHead.ofBytes reply = .ok head) :
    ∃ line, WritesCode head.code head.reason line ∧
      writtenStatus reply = some (line.rdropWhile isBlankByte) := by
  obtain ⟨⟨code, reason, rest⟩, status, read⟩ := bind_ok read
  obtain ⟨behind, _, read⟩ := bind_ok read
  cases read
  exact readStatusLine_writes status

theorem fits_of_short_head (read : ResponseHead.ofBytes reply = .ok head)
    (short : head.length ≤ maxHeadLength) : Fits reply := by
  have enough : head.length ≤ (reply.take maxHeadLength).length := by
    have within := ResponseHead.length_le read
    rw [List.length_take]
    omega
  right
  rw [ResponseHead.ofBytes_of_long read (List.take_prefix _ _) enough]
  exact nofun

theorem told_of_refused (destination : Destination) (ending : Ending)
    (read : ResponseHead.ofBytes reply = .ok head) (refused : head.code ≠ 200) :
    told destination reply ending =
      .error (.protocol (.tunnelRejected destination.authority head.status)) := by
  have judged : verdict destination reply =
      .error (.protocol (.tunnelRejected destination.authority head.status)) := by
    unfold verdict
    rw [read]
    exact if_neg refused
  unfold told
  rw [judged]

namespace Delivery

variable {destination : Destination} {authorization : Option String}

/-- A tunnel that is refused fails with the status that is read from the head of the reply. -/
theorem openTunnel_refused (read : ResponseHead.ofBytes reply = .ok head)
    (refused : head.code ≠ 200) (short : head.length ≤ maxHeadLength)
    (delivery : Delivery (utf8 (requestHead destination authorization)) reply ending) :
    delivery.EndsWith destination authorization
      (.error (.protocol (.tunnelRejected destination.authority head.status))) := by
  have tells := delivery.openTunnel_tells (fits_of_short_head read short)
  rwa [told_of_refused destination ending read refused] at tells

/-- The error names the destination as it was asked for, and the status as it is reported of what
the proxy has written. These are the same exactly if the code does not start with zero and the
phrase is ASCII. -/
theorem openTunnel_reports_status (read : ResponseHead.ofBytes reply = .ok head)
    (refused : head.code ≠ 200) (short : head.length ≤ maxHeadLength)
    (delivery : Delivery (utf8 (requestHead destination authorization)) reply ending) :
    ∃ written status, writtenStatus reply = some written ∧
      delivery.EndsWith destination authorization
        (.error (.protocol (.tunnelRejected destination.authority status))) ∧
      utf8 status = reportedStatus written ∧
      (utf8 status = written ↔ written.head? ≠ some 0x30 ∧ ∀ byte ∈ written, byte < 0x80) := by
  obtain ⟨line, writes, written⟩ := ofBytes_writes read
  have reported := writes.status head.length
  refine ⟨_, head.status, written, openTunnel_refused read refused short delivery, reported, ?_⟩
  rw [reported]
  exact writes.reportedStatus_eq_self_iff

end Delivery

/-- A proxy that wants to know who is asking. -/
def loginWanted : Bytes :=
  utf8 "HTTP/1.1 407 Proxy Authentication Required \r\nVia: proxy\r\n\r\nwho are you?"

/-- Most replies are told as they are written. -/
theorem login_wanted_is_told :
    ∃ (delivery : Delivery (utf8 (requestHead ⟨"db", 9042⟩ none)) loginWanted .hangsUp)
      (head : ResponseHead),
      ResponseHead.ofBytes loginWanted = .ok head ∧ head.code = 407 ∧ head.length ≤ maxHeadLength ∧
        ∃ written status, writtenStatus loginWanted = some written ∧
          delivery.EndsWith ⟨"db", 9042⟩ none
            (.error (.protocol (.tunnelRejected "db:9042" status))) ∧
          utf8 status = written ∧ written = utf8 "407 Proxy Authentication Required" := by
  have single : loginWanted ≠ [] ∧ loginWanted.length ≤ chunkLength := by decide +kernel
  let delivery : Delivery (utf8 (requestHead ⟨"db", 9042⟩ none)) loginWanted .hangsUp :=
    .ofPieces _ .hangsUp [loginWanted] List.flatten_singleton (by simpa using single)
  have read : ResponseHead.ofBytes loginWanted =
      .ok ⟨407, utf8 "Proxy Authentication Required ", 59⟩ := by decide +kernel
  have asWritten : writtenStatus loginWanted = some (utf8 "407 Proxy Authentication Required") := by
    decide +kernel
  obtain ⟨written, status, writes, told, -, exactly⟩ :=
    delivery.openTunnel_reports_status read (by decide) (by decide +kernel)
  rw [asWritten] at writes
  cases writes
  have plain : (utf8 "407 Proxy Authentication Required").head? ≠ some 0x30 ∧
      ∀ byte ∈ utf8 "407 Proxy Authentication Required", byte < 0x80 := by decide +kernel
  exact ⟨delivery, _, read, rfl, by decide +kernel, _, status, asWritten, told, exactly.mpr plain,
    rfl⟩

/-- A code of three digits that is less than a hundred. -/
def lowCode : Bytes := utf8 "HTTP/1.1 099 Busy\r\n\r\n"

/-- A phrase that is not ASCII. -/
def accessBarred : Bytes := utf8 "HTTP/1.1 403 Zugang für alle gesperrt\r\n\r\n"

/-- Zeros in front of a code are lost, and so is a phrase that is not ASCII. -/
theorem status_is_not_as_written :
    ∃ (coded : Delivery (utf8 (requestHead ⟨"db", 9042⟩ none)) lowCode .hangsUp)
      (worded : Delivery (utf8 (requestHead ⟨"db", 9042⟩ none)) accessBarred .hangsUp),
      ResponseHead.ofBytes lowCode = .ok ⟨99, utf8 "Busy", 21⟩ ∧
      writtenStatus lowCode = some (utf8 "099 Busy") ∧
      coded.EndsWith ⟨"db", 9042⟩ none (.error (.protocol (.tunnelRejected "db:9042" "99 Busy"))) ∧
      ResponseHead.ofBytes accessBarred = .ok ⟨403, [], 42⟩ ∧
      writtenStatus accessBarred = some (utf8 "403 Zugang für alle gesperrt") ∧
      worded.EndsWith ⟨"db", 9042⟩ none (.error (.protocol (.tunnelRejected "db:9042" "403"))) := by
  have sizes : (lowCode ≠ [] ∧ lowCode.length ≤ chunkLength) ∧
      accessBarred ≠ [] ∧ accessBarred.length ≤ chunkLength := by decide +kernel
  let coded : Delivery (utf8 (requestHead ⟨"db", 9042⟩ none)) lowCode .hangsUp :=
    .ofPieces _ .hangsUp [lowCode] List.flatten_singleton (by simpa using sizes.1)
  let worded : Delivery (utf8 (requestHead ⟨"db", 9042⟩ none)) accessBarred .hangsUp :=
    .ofPieces _ .hangsUp [accessBarred] List.flatten_singleton (by simpa using sizes.2)
  have readCode : ResponseHead.ofBytes lowCode = .ok ⟨99, utf8 "Busy", 21⟩ := by decide +kernel
  have readPhrase : ResponseHead.ofBytes accessBarred = .ok ⟨403, [], 42⟩ := by decide +kernel
  have codeTold := coded.openTunnel_refused readCode (by decide) (by decide)
  have phraseTold := worded.openTunnel_refused readPhrase (by decide) (by decide)
  have codeStatus : (⟨99, utf8 "Busy", 21⟩ : ResponseHead).status = "99 Busy" := by decide +kernel
  have phraseStatus : (⟨403, [], 42⟩ : ResponseHead).status = "403" := by decide +kernel
  rw [codeStatus] at codeTold
  rw [phraseStatus] at phraseTold
  exact ⟨coded, worded, readCode, by decide +kernel, codeTold, readPhrase, by decide +kernel,
    phraseTold⟩

end ProxyDial.Http
