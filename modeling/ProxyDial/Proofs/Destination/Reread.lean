import ProxyDial.Destination
import ProxyDial.Proofs.Destination.Scan
import ProxyDial.Proofs.Text.Blank
import ProxyDial.Proofs.Text.Cut
import ProxyDial.Proofs.Text.Digits

set_option autoImplicit false

/-! Whether the form `host:port` of a destination names the destination again. A text is read
without the brackets at the ends of its host, and written with brackets around a host that holds a
colon; the two rules do not fit together for hosts with brackets elsewhere, and for some with a
percent sign. -/

namespace ProxyDial
open Text

namespace Authority

variable {text host front : List Char} {port : UInt16}

/-- The scan of the part behind the user starts with nothing counted. -/
theorem exists_run_withoutUser {scan : Scan} (run : ({} : Scan).run text = .ok scan) :
    ∃ start : Scan, start.run (withoutUser text) = .ok scan ∧ start.colons = 0 ∧
      start.percent = false ∧ (start.closed = true → start.opened = true) ∧
      '@' ∉ withoutUser text := by
  by_cases hasUser : '@' ∈ text
  · obtain ⟨user, behind, split, noAt⟩ := exists_last_mark hasUser
    have same : withoutUser text = behind := by
      unfold withoutUser
      rw [split, cutAtLast?_append_cons user noAt]
      rfl
    rw [split, Scan.run_append] at run
    obtain ⟨middle, runUser, rest⟩ := Dial.bind_ok run
    rw [Scan.run_cons] at rest
    obtain ⟨start, step, runBehind⟩ := Dial.bind_ok rest
    cases step
    rw [same]
    refine ⟨_, runBehind, rfl, rfl, ?_, noAt⟩
    exact (Scan.seen_of_run runUser).nested fun impossible => nomatch impossible
  · have same : withoutUser text = text := by
      unfold withoutUser
      rw [cutAtLast?_of_not_mem hasUser]
      rfl
    rw [same]
    exact ⟨{}, run, rfl, rfl, fun impossible => (nomatch impossible), hasUser⟩

/-- The shape of a host without brackets at its ends, as it stands in a destination. -/
inductive HostShape (host : List Char) : Prop
  /-- The host of an address in brackets. -/
  | inBrackets (colon : ':' ∈ host) (noOpening : '[' ∉ host) (noClosing : ']' ∉ host)
      (room : host.count ':' ≤ maxColons)
  /-- Any other host. When both brackets stand inside of it, they stand in order. -/
  | bare (noColon : ':' ∉ host) (start : host.head? ≠ some '[') (stop : host.getLast? ≠ some ']')
      (ordered : '[' ∈ host → ']' ∈ host →
        ∃ scan, ({} : Scan).run host = .ok scan ∧ scan.percent = false)

/-- A host that has been read. -/
structure IsHost (host : List Char) : Prop where
  allowed : ∀ c ∈ host, Allowed c
  noAt : '@' ∉ host
  shape : HostShape host

/-- Between brackets there stand none, and no more colons than an address has. -/
theorem isHost_of_brackets {rest : List Char} {start scan : Scan}
    (run : start.run ('[' :: rest) = .ok scan) (colons : start.colons = 0) (noAt : '@' ∉ rest) :
    IsHost (unbracketed ('[' :: rest.takeWhile (· ≠ ']') ++ [']'])) := by
  rw [Scan.run_cons] at run
  obtain ⟨opened, step, runRest⟩ := Dial.bind_ok run
  have isOpen : opened.opened = true :=
    (Scan.steps_of_ok step).seen.opened.mpr (.inr (.head _))
  have uncounted : opened.colons = 0 :=
    (Scan.steps_of_ok step).seen.colonless (by decide) colons
  have whole := List.takeWhile_append_dropWhile (p := (· ≠ ']')) (l := rest)
  rw [← whole, Scan.run_append] at runRest
  obtain ⟨middle, runContent, -⟩ := Dial.bind_ok runRest
  have inside : rest.takeWhile (· ≠ ']') ⊆ rest := List.takeWhile_subset _
  have seen := Scan.seen_of_run runContent
  have noOpening := seen.openedOnce isOpen
  have noClosing : ']' ∉ rest.takeWhile (· ≠ ']') := by
    intro member
    exact absurd (List.mem_takeWhile_imp member) (by decide)
  have noAtInside : '@' ∉ rest.takeWhile (· ≠ ']') := fun member => noAt (inside member)
  have room : (rest.takeWhile (· ≠ ']')).count ':' ≤ maxColons := by
    have counted := seen.colons noClosing noAtInside
    have bounded := seen.bounded (by omega)
    omega
  rw [unbracketed_brackets noOpening noClosing]
  refine ⟨seen.allowed, noAtInside, ?_⟩
  by_cases colon : ':' ∈ rest.takeWhile (· ≠ ']')
  · exact .inBrackets colon noOpening noClosing room
  · refine .bare colon ?_ ?_ fun opening => absurd opening noOpening
    · exact fun first => noOpening (List.mem_of_head? first)
    · exact fun last => noClosing (List.mem_of_getLast? last)

/-- A scan does not depend on where the text before ended. -/
theorem run_eq_of_fresh {start : Scan} (notEmpty : host ≠ []) (colons : start.colons = 0)
    (opened : start.opened = false) (closed : start.closed = false)
    (percent : start.percent = false) : start.run host = ({} : Scan).run host := by
  cases host with
  | nil => exact absurd rfl notEmpty
  | cons c rest =>
      obtain ⟨_, _, _, _, atEnd⟩ := start
      subst colons opened closed percent
      rfl

/-- The start of what stands behind the user is a host when no colon is in it. -/
theorem isHost_of_start {behind : List Char} {start scan : Scan}
    (run : start.run (host ++ behind) = .ok scan) (noAt : '@' ∉ host ++ behind)
    (noColon : ':' ∉ host) (first : host.head? ≠ some '[') (last : host.getLast? ≠ some ']')
    (colons : start.colons = 0) (percent : start.percent = false)
    (nested : start.closed = true → start.opened = true) (check : scan.check = .ok ()) :
    IsHost host := by
  rw [List.mem_append, not_or] at noAt
  rw [Scan.run_append] at run
  obtain ⟨middle, runHost, runBehind⟩ := Dial.bind_ok run
  have seen := Scan.seen_of_run runHost
  refine ⟨seen.allowed, noAt.1, .bare noColon first last ?_⟩
  intro opening closing
  -- Both brackets are in the host, so none comes before it, and none behind it.
  have opened : start.opened = false := by
    by_contra already
    exact seen.openedOnce (by simpa using already) opening
  have closed : start.closed = false := by
    by_contra already
    rw [nested (by simpa using already)] at opened
    cases opened
  have later := Scan.seen_of_run runBehind
  have noClosing : ']' ∉ behind := later.closedOnce (seen.closed.mpr (.inr closing))
  refine ⟨middle, ?_, ?_⟩
  · rw [← run_eq_of_fresh (List.ne_nil_of_mem opening) colons opened closed percent]
    exact runHost
  · by_contra stays
    have still := (later.percent noClosing noAt.2).mpr (.inl (by simpa using stays))
    rw [(Scan.check_ok_iff.mp check).2.2.2] at still
    cases still

/-- What stands before the colon, without closing brackets at its end, is a host. -/
theorem isHost_of_bare {tail : List Char} {start scan : Scan} (run : start.run tail = .ok scan)
    (noAt : '@' ∉ tail) (noBracket : tail.head? ≠ some '[') (colons : start.colons = 0)
    (percent : start.percent = false) (nested : start.closed = true → start.opened = true)
    (check : scan.check = .ok ()) : IsHost (unbracketed (tail.takeWhile (· ≠ ':'))) := by
  have opens {part : List Char} (inTail : part <+: tail) : part.head? ≠ some '[' := by
    intro first
    obtain ⟨rest, same⟩ := List.head?_eq_some_iff.mp first
    obtain ⟨behind, whole⟩ := inTail
    exact noBracket (by rw [← whole, same]; rfl)
  have inTail : tail.takeWhile (· ≠ ':') <+: tail := List.takeWhile_prefix _
  have bare : unbracketed (tail.takeWhile (· ≠ ':')) =
      dropEndWhile (· = ']') (tail.takeWhile (· ≠ ':')) := by
    unfold unbracketed
    rw [dropWhile_eq_self]
    intro c first
    rw [decide_eq_false_iff_not]
    rintro rfl
    exact opens inTail first
  have inHead := dropEndWhile_prefix (· = ']') (tail.takeWhile (· ≠ ':'))
  obtain ⟨behind, whole⟩ := inHead.trans inTail
  rw [bare]
  rw [← whole] at run noAt
  refine isHost_of_start run noAt ?_ (opens (inHead.trans inTail)) ?_ colons percent nested check
  · intro member
    exact absurd (List.mem_takeWhile_imp (inHead.subset member)) (by decide)
  · intro last
    exact absurd (getLast?_dropEndWhile last) (by decide)

/-- Every host that is read has one of the shapes. -/
theorem isHost_of_validate (ok : validate text = .ok ()) :
    IsHost (unbracketed (Authority.host text)) := by
  obtain ⟨scan, run, check⟩ := scan_of_validate ok
  obtain ⟨start, run, colons, percent, nested, noAt⟩ := exists_run_withoutUser run
  unfold Authority.host
  split
  next rest same =>
    rw [same] at run noAt
    exact isHost_of_brackets run colons fun member => noAt (.tail _ member)
  next noBracket =>
    refine isHost_of_bare run noAt ?_ colons percent nested check
    intro first
    obtain ⟨rest, same⟩ := List.head?_eq_some_iff.mp first
    exact noBracket rest same

/-- The text in front of a port can be scanned, and leaves nothing to be made good. -/
def Completes (front : List Char) : Prop :=
  ∃ scan : Scan, ({} : Scan).run front = .ok scan ∧ scan.colons = 0 ∧ scan.percent = false ∧
    (scan.opened = true ↔ scan.closed = true)

theorem isPlain_of_isDigit {c : Char} (digit : isDigit c = true) : isPlain c = true := by
  have alphanumeric : c.isAlphanum = true := by
    unfold isDigit at digit
    unfold Char.isAlphanum Char.isDigit
    simp only [Bool.and_eq_true, decide_eq_true_eq, Char.le_def] at digit
    simp only [Bool.or_eq_true, Bool.and_eq_true, decide_eq_true_eq]
    exact .inr digit
  unfold isPlain
  rw [alphanumeric]
  rfl

/-- Whatever may stand in an authority is a visible character of ASCII. -/
theorem visible_of_allowed {c : Char} (allowed : Allowed c) :
    0x21 ≤ c.toNat ∧ c.toNat ≤ 0x7e := by
  have marks : [':', '[', ']', '@', '%', '!', '$', '&', '\'', '(', ')', '*', '+', ',', '-', '.', ';',
      '=', '_', '~'].all (fun mark => 0x21 ≤ mark.toNat && mark.toNat ≤ 0x7e) = true := by
    decide
  simp only [List.all_eq_true, Bool.and_eq_true, decide_eq_true_eq] at marks
  by_cases alphanumeric : c.isAlphanum = true
  · unfold Char.isAlphanum Char.isAlpha Char.isUpper Char.isLower Char.isDigit at alphanumeric
    unfold Char.toNat
    simp only [Bool.or_eq_true, Bool.and_eq_true, decide_eq_true_eq, UInt32.le_iff_toNat_le,
      ge_iff_le, Char.reduceVal, UInt32.reduceToNat] at alphanumeric
    omega
  · apply marks
    unfold Allowed isPlain at allowed
    simpa [alphanumeric] using allowed

theorem isBlank_of_allowed {c : Char} (allowed : Allowed c) : isBlank c = false := by
  have visible := visible_of_allowed allowed
  unfold isBlank
  simp only [Bool.or_eq_false_iff, Bool.and_eq_false_iff, decide_eq_false_iff_not]
  omega

theorem allowed_brackets (allowed : ∀ c ∈ host, Allowed c) :
    ∀ c ∈ '[' :: host ++ [']'], Allowed c := by
  intro c member
  simp only [List.cons_append, List.mem_cons, List.mem_append, List.not_mem_nil,
    or_false] at member
  rcases member with opening | inside | closing
  · exact .inr (.inl opening)
  · exact allowed c inside
  · exact .inr (.inr (.inl closing))

theorem allowed_portPart (port : UInt16) : ∀ c ∈ ':' :: decimalDigits port.toNat, Allowed c := by
  intro c member
  cases member with
  | head => exact .inl rfl
  | tail _ digit =>
      exact allowed_of_isPlain (isPlain_of_isDigit (isDigit_of_mem_decimalDigits digit))

theorem not_mem_digits {mark : Char} (other : isDigit mark = false) (port : UInt16) :
    mark ∉ decimalDigits port.toNat := by
  intro member
  rw [isDigit_of_mem_decimalDigits member] at other
  cases other

/-- No other mark than its colon belongs to a port. -/
theorem not_mem_portPart {mark : Char} (other : isDigit mark = false) (noColon : mark ≠ ':')
    (port : UInt16) : mark ∉ ':' :: decimalDigits port.toNat := by
  rw [List.mem_cons, not_or]
  exact ⟨noColon, not_mem_digits other port⟩

theorem validate_of_completes (allowed : ∀ c ∈ front, Allowed c) (noAt : '@' ∉ front)
    (completes : Completes front) (port : UInt16) :
    validate (front ++ ':' :: decimalDigits port.toNat) = .ok () := by
  have noOpening : '[' ∉ ':' :: decimalDigits port.toNat :=
    not_mem_portPart (by decide) (by decide) port
  have noClosing : ']' ∉ ':' :: decimalDigits port.toNat :=
    not_mem_portPart (by decide) (by decide) port
  have noAtBehind : '@' ∉ ':' :: decimalDigits port.toNat :=
    not_mem_portPart (by decide) (by decide) port
  have one : (':' :: decimalDigits port.toNat).count ':' = 1 := by
    rw [List.count_cons_self, List.count_eq_zero_of_not_mem (not_mem_digits (by decide) port)]
  obtain ⟨middle, runFront, colons, percent, balanced⟩ := completes
  obtain ⟨behind, runPort⟩ := Scan.run_ok_of_inner middle (allowed_portPart port)
    noOpening noClosing noAtBehind (by rw [one, colons]; decide)
  have seen := Scan.seen_of_run runPort
  have run : ({} : Scan).run (front ++ ':' :: decimalDigits port.toNat) = .ok behind :=
    (Scan.run_append_of_ok runFront _).trans runPort
  have check : behind.check = .ok () := by
    rw [Scan.check_ok_iff]
    refine ⟨?_, ?_, ?_, ?_⟩
    · rw [Bool.eq_iff_iff, seen.opened, seen.closed]
      simp [noOpening, noClosing, balanced]
    · rw [seen.colons noClosing noAtBehind, one, colons]
    · by_contra atEnd
      have whole := Scan.seen_of_run run
      exact nomatch whole.endsInAt (by simp [noAt, noAtBehind]) (by simpa using atEnd)
    · by_contra stays
      have left := (seen.percent noClosing noAtBehind).mp (by simpa using stays)
      rcases left with left | left
      · rw [percent] at left
        cases left
      · exact not_mem_portPart (by decide) (by decide) port left
  rw [validate_of_allowed (by simp) (List.forall_mem_append.mpr ⟨allowed, allowed_portPart port⟩),
    run]
  exact check

/-- Whether a host can stand in front of a port as it is. -/
def Balanced (host : List Char) : Prop :=
  ('[' ∈ host ↔ ']' ∈ host) ∧ ('%' ∈ host → ']' ∈ host)

instance (host : List Char) : Decidable (Balanced host) :=
  inferInstanceAs (Decidable (('[' ∈ host ↔ ']' ∈ host) ∧ ('%' ∈ host → ']' ∈ host)))

/-- A text whose scan leaves something to be made good is no authority, for its structure. -/
theorem validate_of_unbalanced (allowed : ∀ c ∈ front, Allowed c) (noAt : '@' ∉ front)
    (unbalanced : ¬ Balanced front) (port : UInt16) :
    validate (front ++ ':' :: decimalDigits port.toNat) = .error .structural := by
  have allAllowed := List.forall_mem_append.mpr ⟨allowed, allowed_portPart port⟩
  have opening : '[' ∈ front ++ ':' :: decimalDigits port.toNat ↔ '[' ∈ front := by
    rw [List.mem_append, or_iff_left (not_mem_portPart (by decide) (by decide) port)]
  have closing : ']' ∈ front ++ ':' :: decimalDigits port.toNat ↔ ']' ∈ front := by
    rw [List.mem_append, or_iff_left (not_mem_portPart (by decide) (by decide) port)]
  have noAtAtAll : '@' ∉ front ++ ':' :: decimalDigits port.toNat := by
    rw [List.mem_append, not_or]
    exact ⟨noAt, not_mem_portPart (by decide) (by decide) port⟩
  rw [validate_of_allowed (by simp) allAllowed]
  cases run : ({} : Scan).run (front ++ ':' :: decimalDigits port.toNat) with
  | error problem => rw [Scan.structural_of_run allAllowed run]; rfl
  | ok scan =>
      have seen := Scan.seen_of_run run
      change scan.check = .error .structural
      cases check : scan.check with
      | error problem => rw [Scan.structural_of_check check]
      | ok done =>
          obtain ⟨balanced, -, -, noPercent⟩ := Scan.check_ok_iff.mp check
          rw [Bool.eq_iff_iff, seen.opened, seen.closed, opening, closing] at balanced
          refine absurd ⟨by simpa using balanced, ?_⟩ unbalanced
          intro percent
          by_contra noClosing
          have stays := (seen.percent (by rwa [closing]) noAtAtAll).mpr
            (.inr (List.mem_append.mpr (.inl percent)))
          rw [noPercent] at stays
          cases stays

theorem host_joined (noAt : '@' ∉ front) (noColon : ':' ∉ front)
    (first : front.head? ≠ some '[') (port : UInt16) :
    Authority.host (front ++ ':' :: decimalDigits port.toNat) = front := by
  have same : withoutUser (front ++ ':' :: decimalDigits port.toNat) =
      front ++ ':' :: decimalDigits port.toNat := by
    unfold withoutUser
    rw [cutAtLast?_of_not_mem]
    · rfl
    · rw [List.mem_append, not_or]
      exact ⟨noAt, not_mem_portPart (by decide) (by decide) port⟩
  unfold Authority.host
  rw [same]
  split
  next rest opens =>
    cases front with
    | nil => exact absurd (List.cons.inj opens).1 (by decide)
    | cons c later =>
        rw [List.cons_append] at opens
        rw [(List.cons.inj opens).1] at first
        exact absurd rfl first
  · exact takeWhile_ne_append_cons noColon _

theorem host_joined_brackets (noClosing : ']' ∉ host) (noAt : '@' ∉ host) (port : UInt16) :
    Authority.host ('[' :: host ++ [']'] ++ ':' :: decimalDigits port.toNat) =
      '[' :: host ++ [']'] := by
  have same : withoutUser ('[' :: host ++ [']'] ++ ':' :: decimalDigits port.toNat) =
      '[' :: (host ++ ']' :: ':' :: decimalDigits port.toNat) := by
    unfold withoutUser
    rw [cutAtLast?_of_not_mem]
    · simp
    · have noAtBehind : '@' ∉ ':' :: decimalDigits port.toNat :=
        not_mem_portPart (by decide) (by decide) port
      simpa [noAt] using noAtBehind
  unfold Authority.host
  rw [same]
  change '[' :: (host ++ ']' :: ':' :: decimalDigits port.toNat).takeWhile (· ≠ ']') ++ [']'] = _
  rw [takeWhile_ne_append_cons noClosing]

theorem completes_of_brackets (allowed : ∀ c ∈ host, Allowed c) (noAt : '@' ∉ host)
    (noOpening : '[' ∉ host) (noClosing : ']' ∉ host) (room : host.count ':' ≤ maxColons) :
    Completes ('[' :: host ++ [']']) := by
  obtain ⟨inner, runHost⟩ := Scan.run_ok_of_inner { opened := true } allowed noOpening
    noClosing noAt (by simpa using room)
  have seen := Scan.seen_of_run runHost
  have opened : inner.opened = true := seen.opened.mpr (.inl rfl)
  have closed : inner.closed = false := by
    by_contra already
    have found := seen.closed.mp (by simpa using already)
    simp [noClosing] at found
  have step : inner.step ']' = .ok
      { inner with closed := true, colons := 0, percent := false, endsInAt := false } := by
    unfold Scan.step
    simp [opened, closed]
  refine ⟨{ inner with closed := true, colons := 0, percent := false, endsInAt := false }, ?_, rfl,
    rfl, by simp [opened]⟩
  rw [List.cons_append, Scan.run_cons]
  exact (Scan.run_append_of_ok runHost [']']).trans (by rw [Scan.run_cons, step]; rfl)

theorem completes_of_balanced (isHost : IsHost host) (noColon : ':' ∉ host)
    (balanced : Balanced host) : Completes host := by
  cases isHost.shape with
  | inBrackets colon => exact absurd colon noColon
  | bare _ _ _ ordered =>
      by_cases opening : '[' ∈ host
      · have closing := balanced.1.mp opening
        obtain ⟨scan, run, percent⟩ := ordered opening closing
        have seen := Scan.seen_of_run run
        refine ⟨scan, run, seen.colonless noColon rfl, percent, ?_⟩
        exact iff_of_true (seen.opened.mpr (.inr opening)) (seen.closed.mpr (.inr closing))
      · have closing : ']' ∉ host := fun member => opening (balanced.1.mpr member)
        obtain ⟨scan, run⟩ := Scan.run_ok_of_inner {} isHost.allowed opening closing
          isHost.noAt (by rw [List.count_eq_zero_of_not_mem noColon]; decide)
        have seen := Scan.seen_of_run run
        refine ⟨scan, run, seen.colonless noColon rfl, ?_, ?_⟩
        · by_contra stays
          have found := (seen.percent closing isHost.noAt).mp (by simpa using stays)
          rcases found with impossible | percent
          · cases impossible
          · exact closing (balanced.2 percent)
        · rw [seen.opened, seen.closed]
          simp [opening, closing]

end Authority

namespace Destination
open Authority

variable {host front : List Char}

theorem trimmed_of_allowed {text : List Char} (allowed : ∀ c ∈ text, Allowed c) :
    trimmed text = text := by
  apply trimmed_eq_self
  · exact fun c first => isBlank_of_allowed (allowed c (List.mem_of_head? first))
  · exact fun c last => isBlank_of_allowed (allowed c (List.mem_of_getLast? last))

/-- A text that ends in a port, and holds nothing that no authority holds. -/
theorem parse_joined {address : String} {port : UInt16}
    (written : address.toList = front ++ ':' :: decimalDigits port.toNat)
    (allowed : ∀ c ∈ front, Allowed c) :
    parse address = match validate address.toList with
      | .error problem => .error (.config (.invalidDestination address problem.message))
      | .ok () => .ok ⟨String.ofList (unbracketed (Authority.host address.toList)), port⟩ := by
  have portText : portText? address.toList = some (decimalDigits port.toNat) := by
    unfold portText?
    rw [written, cutAtLast?_append_cons front (not_mem_digits (by decide) port)]
    rfl
  have same : trimmed address.toList = address.toList := by
    rw [written]
    exact trimmed_of_allowed (List.forall_mem_append.mpr ⟨allowed, allowed_portPart port⟩)
  unfold parse
  rw [same]
  dsimp only
  have read : (portText? address.toList).bind readUInt16? = some port := by
    rw [portText, Option.bind_some, readUInt16?_decimalDigits]
  cases validate address.toList <;> simp only [read]

/-- The form `host:port` of the host names the destination again. -/
def Rereads (host : List Char) : Prop := ':' ∈ host ∨ Authority.Balanced host

instance (host : List Char) : Decidable (Rereads host) :=
  inferInstanceAs (Decidable (':' ∈ host ∨ Authority.Balanced host))

theorem toList_authority_of_colon {destination : Destination}
    (colon : ':' ∈ destination.host.toList) (first : destination.host.toList.head? ≠ some '[') :
    destination.authority.toList = '[' :: destination.host.toList ++ [']'] ++
      ':' :: decimalDigits destination.port.toNat := by
  unfold authority joinHostPort
  rw [if_pos (by simp [colon, first])]
  simp [decimalDigits]

theorem toList_authority_of_bare {destination : Destination}
    (noColon : ':' ∉ destination.host.toList) :
    destination.authority.toList = destination.host.toList ++
      ':' :: decimalDigits destination.port.toNat := by
  unfold authority joinHostPort
  rw [if_neg (by simp [noColon])]
  simp [decimalDigits]

theorem parse_authority_of_isHost {destination : Destination}
    (isHost : IsHost destination.host.toList) : parse destination.authority =
      if Rereads destination.host.toList then .ok destination
      else .error
        (.config (.invalidDestination destination.authority Problem.structural.message)) := by
  have host : String.ofList destination.host.toList = destination.host := String.ofList_toList
  cases isHost.shape with
  | inBrackets colon noOpening noClosing room =>
      have written := toList_authority_of_colon colon
        fun first => noOpening (List.mem_of_head? first)
      have allowed := allowed_brackets isHost.allowed
      have complete := completes_of_brackets isHost.allowed isHost.noAt noOpening noClosing room
      rw [if_pos (.inl colon), parse_joined written allowed, written,
        validate_of_completes allowed (by simp [isHost.noAt]) complete,
        host_joined_brackets noClosing isHost.noAt, unbracketed_brackets noOpening noClosing, host]
  | bare noColon first last ordered =>
      have written := toList_authority_of_bare noColon
      rw [parse_joined written isHost.allowed, written]
      by_cases balanced : Authority.Balanced destination.host.toList
      · rw [if_pos (.inr balanced), validate_of_completes isHost.allowed isHost.noAt
            (completes_of_balanced isHost noColon balanced), host_joined isHost.noAt noColon first,
          unbracketed_eq_self first last, host]
      · have fails : ¬ Rereads destination.host.toList := not_or.mpr ⟨noColon, balanced⟩
        rw [if_neg fails, validate_of_unbalanced isHost.allowed isHost.noAt balanced]

/-- A text that is read gives a host. -/
theorem isHost_of_parse {address : String} {destination : Destination}
    (parsed : parse address = .ok destination) : IsHost destination.host.toList := by
  unfold parse at parsed
  dsimp only at parsed
  split at parsed
  · cases parsed
  next valid =>
    split at parsed
    · cases parsed
    · rw [← Except.ok.inj parsed, String.toList_ofList]
      exact isHost_of_validate valid

end Destination

end ProxyDial
