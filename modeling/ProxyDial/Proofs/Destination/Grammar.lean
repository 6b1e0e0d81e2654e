import ProxyDial.Proofs.Destination.Reread

set_option autoImplicit false

/-! Which texts are read as destinations, and how much of them. The form `host:port`, with a user in
front or without, is what a text should have. More is read than that: a sign in front of the port, a
host with nothing in it, and text between the host and the port, which is passed over. -/

namespace ProxyDial
open Text

namespace Destination
open Authority

/-- The user in front of a host, with its at sign; or nothing. -/
def IsUser (user : List Char) : Prop := user = [] ∨ user.getLast? = some '@'

/-- A host as it is written: bare, or in one pair of brackets. -/
inductive WritesHost (host : List Char) : List Char → Prop
  | bare : WritesHost host host
  | inBrackets : WritesHost host ('[' :: host ++ [']'])

/-- A port as it is written in digits. -/
structure WritesPort (port : UInt16) (digits : List Char) : Prop where
  notEmpty : digits ≠ []
  isDigits : ∀ c ∈ digits, isDigit c = true
  value : decimalValue digits = port.toNat

/-- A text of the form `host:port`, where a user may stand in front. -/
def Writes (destination : Destination) (text : List Char) : Prop :=
  destination.host ≠ "" ∧ ∃ user written digits, IsUser user ∧
    WritesHost destination.host.toList written ∧ WritesPort destination.port digits ∧
    text = user ++ (written ++ ':' :: digits)

section
variable {text user body front port written : List Char}

theorem WritesPort.not_mem {number : UInt16} {digits : List Char}
    (writes : WritesPort number digits) {mark : Char} (other : isDigit mark = false) :
    mark ∉ digits := by
  intro member
  rw [writes.isDigits mark member] at other
  cases other

/-- A port that is read is written in digits, with a plus sign in front or without. -/
theorem writesPort_of_read {number : UInt16} (read : readUInt16? port = some number) :
    ∃ sign digits, port = sign ++ digits ∧ (sign = [] ∨ sign = ['+']) ∧
      WritesPort number digits := by
  have written {digits : List Char} (read : readDigits? 65536 digits = some number.toNat) :
      WritesPort number digits := by
    unfold readDigits? at read
    split at read
    next fits =>
      simp only [Bool.and_eq_true, List.all_eq_true, Bool.not_eq_true', List.isEmpty_eq_false_iff,
        decide_eq_true_eq] at fits
      exact ⟨fits.1.1, fits.1.2, Option.some.inj read⟩
    · cases read
  obtain ⟨value, unsigned, same⟩ := Option.map_eq_some_iff.mp read
  have small {digits : List Char} (read : readDigits? 65536 digits = some value) :
      value < 65536 := by
    unfold readDigits? at read
    split at read
    next fits =>
      cases read
      exact of_decide_eq_true (Bool.and_eq_true_iff.mp fits).2
    · cases read
  have exact' {digits : List Char} (read : readDigits? 65536 digits = some value) :
      readDigits? 65536 digits = some number.toNat := by
    rw [read, ← same, UInt16.toNat_ofNat_of_lt' (small read)]
  unfold readUnsigned? at unsigned
  split at unsigned
  next digits => exact ⟨['+'], digits, rfl, .inr rfl, written (exact' unsigned)⟩
  next => exact ⟨[], port, rfl, .inl rfl, written (exact' unsigned)⟩

theorem WritesPort.not_mem_signed {number : UInt16} {sign digits : List Char}
    (writes : WritesPort number digits) (isSign : sign = [] ∨ sign = ['+']) {mark : Char}
    (other : isDigit mark = false) (noSign : mark ≠ '+') : mark ∉ sign ++ digits := by
  rcases isSign with rfl | rfl
  · exact writes.not_mem other
  · rw [List.singleton_append, List.mem_cons, not_or]
    exact ⟨noSign, writes.not_mem other⟩

/-- No other marks than a plus sign and digits are in a port that is read. -/
theorem not_mem_of_read {number : UInt16} (read : readUInt16? port = some number) {mark : Char}
    (other : isDigit mark = false) (noSign : mark ≠ '+') : mark ∉ port := by
  obtain ⟨sign, digits, rfl, isSign, writes⟩ := writesPort_of_read read
  exact writes.not_mem_signed isSign other noSign

theorem withoutUser_append (isUser : IsUser user) (noAt : '@' ∉ body) :
    withoutUser (user ++ body) = body := by
  unfold withoutUser
  rcases isUser with rfl | last
  · rw [List.nil_append, cutAtLast?_of_not_mem noAt]
    rfl
  · obtain ⟨name, rfl⟩ := List.getLast?_eq_some_iff.mp last
    rw [List.append_assoc, List.singleton_append, cutAtLast?_append_cons name noAt]
    rfl

theorem exists_user (text : List Char) :
    ∃ user, IsUser user ∧ text = user ++ withoutUser text ∧ '@' ∉ withoutUser text := by
  by_cases hasUser : '@' ∈ text
  · obtain ⟨name, behind, split, noAt⟩ := exists_last_mark hasUser
    have isUser : IsUser (name ++ ['@']) := .inr (by simp)
    have same : text = (name ++ ['@']) ++ behind := by simp [split]
    refine ⟨name ++ ['@'], isUser, ?_, ?_⟩
    · rw [same, withoutUser_append isUser noAt]
    · rw [same, withoutUser_append isUser noAt]
      exact noAt
  · have nobody : IsUser [] := .inl rfl
    have same := withoutUser_append nobody hasUser
    rw [List.nil_append] at same
    rw [same]
    exact ⟨[], nobody, rfl, hasUser⟩

/-- A port stands at the end of what follows the user. -/
theorem exists_front (isUser : IsUser user) (cut : portText? (user ++ body) = some port)
    (noAt : '@' ∉ port) : ∃ front, body = front ++ ':' :: port := by
  obtain ⟨⟨before, behind⟩, cutLast, rfl⟩ := Option.map_eq_some_iff.mp cut
  by_cases colon : ':' ∈ body
  · obtain ⟨front, later, split, noColon⟩ := exists_last_mark colon
    rw [split, ← List.append_assoc, cutAtLast?_append_cons _ noColon] at cutLast
    cases cutLast
    exact ⟨front, split⟩
  · -- Then the last colon belongs to the user, and the at sign stands behind it.
    exfalso
    by_cases inUser : ':' ∈ user
    · obtain ⟨name, later, split, noColon⟩ := exists_last_mark inUser
      have none : ':' ∉ later ++ body := by
        rw [List.mem_append, not_or]
        exact ⟨noColon, colon⟩
      rw [split, List.append_assoc, List.cons_append, cutAtLast?_append_cons _ none] at cutLast
      cases cutLast
      rcases isUser with empty | last
      · rw [empty] at inUser
        cases inUser
      · have noAtLater : '@' ∉ later := fun member => noAt (List.mem_append_left body member)
        rw [split, List.getLast?_append, List.getLast?_cons, Option.some_or] at last
        cases end' : later.getLast? with
        | none =>
            rw [end'] at last
            cases last
        | some c =>
            rw [end'] at last
            cases last
            exact noAtLater (List.mem_of_getLast? end')
    · rw [cutAtLast?_of_not_mem (by simp [inUser, colon])] at cutLast
      cases cutLast

/-- Of a host in brackets, all between the first brackets is read. -/
theorem host_in_brackets {rest : List Char} {start scan : Scan}
    (run : start.run ('[' :: rest) = .ok scan) (check : scan.check = .ok ())
    (nested : start.closed = true → start.opened = true)
    (split : '[' :: rest = front ++ ':' :: port) (noClosing : ']' ∉ port) :
    ∃ inner skipped, '[' :: rest = '[' :: inner ++ [']'] ++ skipped ++ ':' :: port ∧
      unbracketed ('[' :: rest.takeWhile (· ≠ ']') ++ [']']) = inner := by
  have seen := Scan.seen_of_run run
  have closing : ']' ∈ rest := by
    have opened : scan.opened = true := seen.opened.mpr (.inr (.head _))
    have closed : scan.closed = true := by rw [← (Scan.check_ok_iff.mp check).1, opened]
    rcases seen.closed.mp closed with already | member
    · exact absurd (.head _) (seen.openedOnce (nested already))
    · simpa using member
  obtain ⟨inner, later, rfl, noClosingInside⟩ := List.eq_append_cons_of_mem closing
  have noOpening : '[' ∉ inner ++ ']' :: later := by
    rw [Scan.run_cons] at run
    obtain ⟨opened, step, runRest⟩ := Dial.bind_ok run
    have isOpen : opened.opened = true :=
      (Scan.steps_of_ok step).seen.opened.mpr (.inr (.head _))
    exact (Scan.seen_of_run runRest).openedOnce isOpen
  rw [List.mem_append, not_or] at noOpening
  rw [takeWhile_ne_append_cons noClosingInside]
  rw [← List.cons_append] at split
  rcases List.append_eq_append_iff.mp split with ⟨more, whole, behind⟩ | ⟨more, -, behind⟩
  · cases more with
    | nil => cases behind
    | cons c skipped =>
        obtain ⟨rfl, rfl⟩ := List.cons.inj behind
        refine ⟨inner, skipped, by simp, unbracketed_brackets noOpening.1 noClosingInside⟩
  · have member : ']' ∈ ':' :: port := by
      rw [behind]
      simp
    simp only [List.mem_cons, noClosing, or_false] at member
    exact absurd member (by decide)

/-- What stands before the first colon, without closing brackets, starts the text before the last
one. -/
theorem host_bare (noBracket : (front ++ ':' :: port).head? ≠ some '[') :
    unbracketed ((front ++ ':' :: port).takeWhile (· ≠ ':')) <+: front := by
  have name : (front ++ ':' :: port).takeWhile (· ≠ ':') <+: front := by
    rw [List.takeWhile_append]
    split
    · simp
    · exact List.takeWhile_prefix _
  refine (unbracketed_starts ?_).trans name
  intro first
  obtain ⟨more, whole⟩ := List.takeWhile_prefix (l := front ++ ':' :: port) (· ≠ ':')
  rw [← whole, List.head?_append, first] at noBracket
  exact noBracket rfl

/-- The host, as it is written, comes right behind the user. -/
theorem exists_written (valid : validate text = .ok ()) (cut : portText? text = some port)
    (noAt : '@' ∉ port) (noClosing : ']' ∉ port) : ∃ user written skipped,
    text = user ++ (written ++ skipped ++ ':' :: port) ∧ IsUser user ∧
      '@' ∉ written ++ skipped ++ ':' :: port ∧
      WritesHost (unbracketed (Authority.host text)) written := by
  obtain ⟨user, isUser, whole, noAtBehind⟩ := exists_user text
  rw [whole] at cut
  obtain ⟨front, split⟩ := exists_front isUser cut noAt
  obtain ⟨scan, run, check⟩ := scan_of_validate valid
  obtain ⟨start, run, -, -, nested, -⟩ := exists_run_withoutUser run
  unfold Authority.host
  split
  next rest body =>
    rw [body] at run split
    obtain ⟨inner, skipped, decomposed, host⟩ :=
      host_in_brackets run check nested split noClosing
    rw [body, decomposed] at whole noAtBehind
    rw [host]
    exact ⟨user, _, skipped, whole, isUser, noAtBehind, .inBrackets⟩
  next noBracket =>
    have bare : (front ++ ':' :: port).head? ≠ some '[' := by
      intro first
      obtain ⟨rest, same⟩ := List.head?_eq_some_iff.mp first
      exact noBracket rest (split.trans same)
    rw [split] at whole noAtBehind ⊢
    obtain ⟨skipped, kept⟩ := host_bare bare
    refine ⟨user, _, skipped, ?_, isUser, ?_, .bare⟩
    · rw [kept]
      exact whole
    · rw [kept]
      exact noAtBehind

/-- The last colon of a text is where the text falls apart, however that has been found. -/
theorem eq_of_last_colon {other later : List Char}
    (same : front ++ ':' :: port = other ++ ':' :: later) (noColon : ':' ∉ port)
    (noColonLater : ':' ∉ later) : front = other ∧ port = later := by
  have cut := cutAtLast?_append_cons front noColon
  rw [same, cutAtLast?_append_cons other noColonLater] at cut
  cases cut
  exact ⟨rfl, rfl⟩

/-- A host that starts with no bracket is not written in two ways, one of which goes on. -/
theorem skipped_eq_nil {host skipped other : List Char} (notEmpty : host ≠ [])
    (start : host.head? ≠ some '[') (writes : WritesHost host written)
    (writesOther : WritesHost host other) (same : written ++ skipped = other) : skipped = [] := by
  obtain ⟨c, rest, rfl⟩ := List.exists_cons_of_ne_nil notEmpty
  have noBracket : c ≠ '[' := by
    rintro rfl
    exact start rfl
  cases writes with
  | bare =>
      cases writesOther with
      | bare => exact List.append_right_eq_self.mp same
      | inBrackets => exact absurd (List.cons.inj same).1 noBracket
  | inBrackets =>
      cases writesOther with
      | bare => exact absurd (List.cons.inj same).1.symm noBracket
      | inBrackets => exact List.append_right_eq_self.mp same

theorem WritesHost.not_mem {host : List Char} (writes : WritesHost host written) {mark : Char}
    (absent : mark ∉ host) (noOpening : mark ≠ '[') (noClosing : mark ≠ ']') : mark ∉ written := by
  cases writes with
  | bare => exact absent
  | inBrackets => simp [absent, noOpening, noClosing]

end

/-- What a text is made of: a user, the host as it is written, text that is passed over, and behind
the last colon the port with its sign. -/
structure Parts where
  user : List Char
  written : List Char
  skipped : List Char
  sign : List Char
  digits : List Char

namespace Parts

def port (parts : Parts) : List Char := parts.sign ++ parts.digits

/-- The parts behind the user. -/
def body (parts : Parts) : List Char := parts.written ++ parts.skipped ++ ':' :: parts.port

def text (parts : Parts) : List Char := parts.user ++ parts.body

/-- The parts that tell a destination. -/
structure Tell (parts : Parts) (destination : Destination) : Prop where
  isUser : IsUser parts.user
  noAt : '@' ∉ parts.body
  writesHost : WritesHost destination.host.toList parts.written
  isSign : parts.sign = [] ∨ parts.sign = ['+']
  writesPort : WritesPort destination.port parts.digits

variable {parts : Parts} {destination : Destination}

theorem Tell.not_mem_port (tell : parts.Tell destination) {mark : Char}
    (other : isDigit mark = false) (noSign : mark ≠ '+') : mark ∉ parts.port :=
  tell.writesPort.not_mem_signed tell.isSign other noSign

/-- A text of these parts has the form `host:port` only if they are all in their place. -/
theorem Tell.writes_iff (tell : parts.Tell destination) (isHost : IsHost destination.host.toList) :
    destination.Writes parts.text ↔
      destination.host ≠ "" ∧ parts.skipped = [] ∧ parts.sign = [] := by
  constructor
  · rintro ⟨filled, user, written, digits, isUser, writesHost, writesPort, same⟩
    have noAt : '@' ∉ written ++ ':' :: digits := by
      rw [List.mem_append, List.mem_cons, not_or, not_or]
      exact ⟨writesHost.not_mem isHost.noAt (by decide) (by decide), by decide,
        writesPort.not_mem (by decide)⟩
    have bodies : parts.body = written ++ ':' :: digits := by
      rw [← withoutUser_append tell.isUser tell.noAt, ← text, same,
        withoutUser_append isUser noAt]
    obtain ⟨hosts, ports⟩ := eq_of_last_colon bodies (tell.not_mem_port (by decide) (by decide))
      (writesPort.not_mem (by decide))
    have notEmpty : destination.host.toList ≠ [] := by simpa using filled
    have start : destination.host.toList.head? ≠ some '[' := by
      cases isHost.shape with
      | inBrackets _ noOpening => exact fun first => noOpening (List.mem_of_head? first)
      | bare _ start => exact start
    refine ⟨filled, skipped_eq_nil notEmpty start tell.writesHost writesHost hosts, ?_⟩
    rcases tell.isSign with none | plus
    · exact none
    · have member : '+' ∈ digits := by
        rw [← ports, port, plus]
        exact .head _
      exact absurd member (writesPort.not_mem (by decide))
  · rintro ⟨filled, nothing, unsigned⟩
    refine ⟨filled, parts.user, parts.written, parts.digits, tell.isUser, tell.writesHost,
      tell.writesPort, ?_⟩
    rw [text, body, port, nothing, unsigned, List.append_nil, List.nil_append]

end Parts

/-- What is read has passed the checks, and a port has been found in it. -/
theorem parse_ok {address : String} {destination : Destination}
    (parsed : parse address = .ok destination) : ∃ port,
      Authority.validate (trimmed address.toList) = .ok () ∧
      Authority.portText? (trimmed address.toList) = some port ∧
      readUInt16? port = some destination.port ∧
      destination.host.toList = unbracketed (Authority.host (trimmed address.toList)) := by
  unfold parse at parsed
  dsimp only at parsed
  split at parsed
  · cases parsed
  next valid =>
    split at parsed
    · cases parsed
    next number read =>
      obtain ⟨port, cut, readPort⟩ := Option.bind_eq_some_iff.mp read
      rw [← Except.ok.inj parsed]
      exact ⟨port, valid, cut, readPort, String.toList_ofList⟩

/-- Every text that is read is made of a user, the host, text that is passed over, and the port with
or without a plus sign. It has the form `host:port` exactly if the host is not empty, nothing is
passed over, and there is no sign. -/
theorem parse_passes_over {address : String} {destination : Destination}
    (parsed : parse address = .ok destination) :
    ∃ parts : Parts, trimmed address.toList = parts.text ∧ parts.Tell destination ∧
      (destination.Writes (trimmed address.toList) ↔
        destination.host ≠ "" ∧ parts.skipped = [] ∧ parts.sign = []) := by
  obtain ⟨port, valid, cut, readPort, host⟩ := parse_ok parsed
  have absent {mark : Char} (other : isDigit mark = false) (noSign : mark ≠ '+') : mark ∉ port :=
    not_mem_of_read readPort other noSign
  obtain ⟨user, written, skipped, whole, isUser, noAt, writesHost⟩ :=
    exists_written valid cut (absent (by decide) (by decide)) (absent (by decide) (by decide))
  obtain ⟨sign, digits, rfl, isSign, writesPort⟩ := writesPort_of_read readPort
  rw [← host] at writesHost
  have tell : (Parts.mk user written skipped sign digits).Tell destination :=
    ⟨isUser, noAt, writesHost, isSign, writesPort⟩
  have iff := tell.writes_iff (isHost_of_parse parsed)
  have same : (Parts.mk user written skipped sign digits).text = trimmed address.toList :=
    whole.symm
  rw [same] at iff
  exact ⟨⟨user, written, skipped, sign, digits⟩, whole, tell, iff⟩

/-- The form with a user, brackets and a port with zeros in front is read as it stands. -/
theorem parse_passes_over_nothing : parse "u@[fd00::1]:09042" = .ok ⟨"fd00::1", 9042⟩ ∧
    ∃ parts : Parts, "u@[fd00::1]:09042".toList = parts.text ∧
      parts.Tell ⟨"fd00::1", 9042⟩ ∧ parts.skipped = [] ∧ parts.sign = [] := by
  have parsed : parse "u@[fd00::1]:09042" = .ok ⟨"fd00::1", 9042⟩ := by decide +kernel
  have kept : trimmed "u@[fd00::1]:09042".toList = "u@[fd00::1]:09042".toList := by decide +kernel
  have writesPort : WritesPort 9042 "09042".toList :=
    ⟨by simp, by simp [isDigit], by decide +kernel⟩
  obtain ⟨parts, whole, tell, iff⟩ := parse_passes_over parsed
  rw [kept] at whole iff
  obtain ⟨-, nothing, unsigned⟩ := iff.mp ⟨by decide, "u@".toList, _, "09042".toList, .inr rfl,
    .inBrackets, writesPort, rfl⟩
  exact ⟨parsed, parts, whole, tell, nothing, unsigned⟩

/-- Text behind the brackets is passed over, a host may be empty, and a port may have a sign. -/
theorem parse_reads_more_than_host_and_port :
    (parse "[::1]x:1" = .ok ⟨"::1", 1⟩ ∧ ¬ Writes ⟨"::1", 1⟩ "[::1]x:1".toList) ∧
    (parse ":9042" = .ok ⟨"", 9042⟩ ∧ ¬ Writes ⟨"", 9042⟩ ":9042".toList) ∧
    (parse "h:+1" = .ok ⟨"h", 1⟩ ∧ ¬ Writes ⟨"h", 1⟩ "h:+1".toList) := by
  have writesPort : WritesPort 1 ['1'] := ⟨by simp, by simp [isDigit], rfl⟩
  have behindBrackets : parse "[::1]x:1" = .ok ⟨"::1", 1⟩ := by decide +kernel
  have signed : parse "h:+1" = .ok ⟨"h", 1⟩ := by decide +kernel
  refine ⟨⟨behindBrackets, ?_⟩, ⟨by decide +kernel, ?_⟩, ⟨signed, ?_⟩⟩
  · have tell : (Parts.mk [] "[::1]".toList ['x'] [] ['1']).Tell ⟨"::1", 1⟩ :=
      ⟨.inl rfl, by decide, .inBrackets, .inl rfl, writesPort⟩
    intro writes
    obtain ⟨-, nothing, -⟩ := (tell.writes_iff (isHost_of_parse behindBrackets)).mp writes
    cases nothing
  · intro writes
    exact writes.1 rfl
  · have tell : (Parts.mk [] "h".toList [] ['+'] ['1']).Tell ⟨"h", 1⟩ :=
      ⟨.inl rfl, by decide, .bare, .inr rfl, writesPort⟩
    intro writes
    obtain ⟨-, -, unsigned⟩ := (tell.writes_iff (isHost_of_parse signed)).mp writes
    cases unsigned

end Destination

end ProxyDial
