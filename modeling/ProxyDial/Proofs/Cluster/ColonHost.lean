import ProxyDial.Proofs.Cluster.ContactPoint

set_option autoImplicit false

/-! Which contact points have a host with a colon in it. An address that is written gets brackets
around every such host. So do entries that nothing is found in but a host, and a port that is no
port is then taken for a part of it. -/

namespace ProxyDial
open Text

namespace Text

/-- What is left between the ends of a text has been in it, in this order. -/
theorem dropEnds_sublist (p q : Char → Bool) (text : List Char) :
    List.Sublist (dropEndWhile q (text.dropWhile p)) text := by
  have inFront := dropEndWhile_prefix q (text.dropWhile p)
  exact inFront.sublist.trans (List.dropWhile_sublist p)

end Text

namespace Authority

variable {front rest : List Char} {start scan : Scan}

theorem no_opening_behind (run : start.run ('[' :: rest) = .ok scan) : '[' ∉ rest := by
  rw [Scan.run_cons] at run
  obtain ⟨opened, step, runRest⟩ := Dial.bind_ok run
  have isOpen : opened.opened = true := (Scan.steps_of_ok step).seen.opened.mpr (.inr (.head _))
  exact (Scan.seen_of_run runRest).openedOnce isOpen

theorem no_closing_behind (run : start.run (front ++ ']' :: rest) = .ok scan) : ']' ∉ rest := by
  rw [← List.singleton_append, ← List.append_assoc, Scan.run_append] at run
  obtain ⟨closed, runFront, runRest⟩ := Dial.bind_ok run
  have isClosed : closed.closed = true := (Scan.seen_of_run runFront).closed.mpr (.inr (by simp))
  exact (Scan.seen_of_run runRest).closedOnce isClosed

theorem IsHost.head?_ne {host : List Char} (isHost : IsHost host) : host.head? ≠ some '[' := by
  cases isHost.shape with
  | inBrackets _ noOpening => exact fun first => noOpening (List.mem_of_head? first)
  | bare _ start => exact start

end Authority

namespace Destination
open Authority

variable {given destination : Destination}

/-- The form in brackets has no blanks at its ends. -/
theorem trimmed_brackets (text : List Char) (port : UInt16) :
    trimmed ('[' :: text ++ [']'] ++ ':' :: decimalDigits port.toNat) =
      '[' :: text ++ [']'] ++ ':' :: decimalDigits port.toNat := by
  apply trimmed_eq_self
  · intro c first
    cases first
    decide
  · intro c last
    rw [List.getLast?_append, List.getLast?_cons, Option.some_or, ← List.getLast?_cons] at last
    exact isBlank_of_allowed (allowed_portPart port c (List.mem_of_getLast? last))

/-- In front of the port of such a form an at sign leaves a host without a colon. -/
theorem noColon_of_at {text : List Char} (noOpening : '[' ∉ text) (hasAt : '@' ∈ text)
    (port : UInt16) : ':' ∉ unbracketed
      (Authority.host ('[' :: text ++ [']'] ++ ':' :: decimalDigits port.toNat)) := by
  obtain ⟨name, behind, rfl, noAt⟩ := exists_last_mark hasAt
  have noAtDigits : '@' ∉ decimalDigits port.toNat := not_mem_digits (by decide) port
  have noOpeningDigits : '[' ∉ decimalDigits port.toNat := not_mem_digits (by decide) port
  have isUser : IsUser ('[' :: name ++ ['@']) := .inr List.getLast?_concat
  have same : withoutUser ('[' :: (name ++ '@' :: behind) ++ [']'] ++
      ':' :: decimalDigits port.toNat) = behind ++ ']' :: ':' :: decimalDigits port.toNat := by
    have absent : '@' ∉ behind ++ ']' :: ':' :: decimalDigits port.toNat := by
      simp [noAt, noAtDigits]
    rw [← withoutUser_append isUser absent]
    simp
  unfold Authority.host
  rw [same]
  split
  next rest opens =>
    have member : '[' ∈ behind ++ ']' :: ':' :: decimalDigits port.toNat := by simp [opens]
    simp only [List.mem_append, List.mem_cons, not_or] at noOpening
    simp [noOpening, noOpeningDigits] at member
  next =>
    intro colon
    have inside := (dropEnds_sublist (· = '[') (· = ']') _).subset colon
    exact absurd (List.mem_takeWhile_imp inside) (by decide)

/-- A host with a colon that is read from such a form is the one that has been written. -/
theorem eq_of_parse_authority (colon : ':' ∈ given.host.toList)
    (first : given.host.toList.head? ≠ some '[')
    (parsed : parse given.authority = .ok destination)
    (read : ':' ∈ destination.host.toList) : destination = given := by
  obtain ⟨digits, valid, cut, readPort, whole⟩ := parse_ok parsed
  rw [toList_authority_of_colon colon first, trimmed_brackets] at valid cut whole
  obtain ⟨scan, run, -⟩ := scan_of_validate valid
  have noOpening : '[' ∉ given.host.toList := by
    have behind : '[' ∉ given.host.toList ++ [']'] ++ ':' :: decimalDigits given.port.toNat :=
      no_opening_behind run
    simp only [List.mem_append, not_or] at behind
    exact behind.1.1
  have noAt : '@' ∉ given.host.toList := by
    intro hasAt
    rw [whole] at read
    exact noColon_of_at noOpening hasAt given.port read
  have noClosing : ']' ∉ given.host.toList := by
    intro closing
    obtain ⟨before, behind, split⟩ := List.append_of_mem closing
    rw [split, ← List.cons_append, List.append_assoc, List.append_assoc, List.cons_append] at run
    simpa using no_closing_behind run
  have sameHost : destination.host = given.host := by
    rw [← String.toList_inj, whole, host_joined_brackets noClosing noAt,
      unbracketed_brackets noOpening noClosing]
  have samePort : destination.port = given.port := by
    unfold portText? at cut
    rw [cutAtLast?_append_cons _ (not_mem_digits (by decide) given.port)] at cut
    cases cut
    rw [readUInt16?_decimalDigits] at readPort
    exact (Option.some.inj readPort).symm
  cases destination
  cases given
  cases sameHost
  cases samePort
  rfl

theorem WritesHost.subset {text written : List Char} (writes : WritesHost text written) :
    text ⊆ written := by
  cases writes with
  | bare => exact List.Subset.refl _
  | inBrackets => simp

/-- Where no colon has been written but the one in front of the port, none is read. -/
theorem noColon_of_parse_authority (noColon : ':' ∉ given.host.toList)
    (parsed : parse given.authority = .ok destination) :
    ':' ∉ destination.host.toList := by
  intro colon
  obtain ⟨parts, whole, tell, -⟩ := parse_passes_over parsed
  have one : given.authority.toList.count ':' = 1 := by
    rw [toList_authority_of_bare noColon, List.count_append, List.count_eq_zero_of_not_mem noColon,
      List.count_cons_self, List.count_eq_zero_of_not_mem (not_mem_digits (by decide) given.port)]
  have kept : (trimmed given.authority.toList).count ':' ≤ 1 := by
    rw [← one]
    exact (dropEnds_sublist isBlank isBlank given.authority.toList).count_le ':'
  have atLeast := List.count_pos_iff.mpr (tell.writesHost.subset colon)
  rw [whole, Parts.text, Parts.body, List.count_append, List.count_append, List.count_append,
    List.count_cons_self] at kept
  omega

/-- A form `host:port` is read with a colon in its host exactly if a host has been written that can
stand in brackets. -/
theorem parse_authority_colon_iff (first : given.host.toList.head? ≠ some '[') :
    parse given.authority = .ok destination ∧ ':' ∈ destination.host.toList ↔
      IsHost given.host.toList ∧ ':' ∈ given.host.toList ∧ destination = given := by
  constructor
  · rintro ⟨parsed, read⟩
    by_cases colon : ':' ∈ given.host.toList
    · obtain rfl := eq_of_parse_authority colon first parsed read
      exact ⟨isHost_of_parse parsed, colon, rfl⟩
    · exact absurd read (noColon_of_parse_authority colon parsed)
  · rintro ⟨isHost, colon, rfl⟩
    refine ⟨?_, colon⟩
    rw [parse_authority_of_isHost isHost, if_pos (.inl colon)]

end Destination

namespace ContactPoint
open Authority

/-- Whether a text is an IPv6 address, with a zone behind it or without. -/
def writesIpv6 (text : List Char) : Bool :=
  (Ipv6.ofChars? (text.takeWhile (· ≠ '%'))).isSome

/-- A host that gets brackets as an IPv6 address does, and is none. -/
structure LooksLikeIpv6 (host : String) : Prop where
  colon : ':' ∈ host.toList
  noAddress : writesIpv6 host.toList = false

/-- What an entry has to be for its contact point to be read as a destination with such a host. It
is read as this destination itself, or nothing is found in it but a host, which is all of it. -/
structure Misread (text : List Char) (destination : Destination) : Prop where
  noIp : IpAddress.ofChars? text = none
  looks : LooksLikeIpv6 destination.host
  source : Destination.parse (String.ofList text) = .ok destination ∨
    (∃ error, Destination.parse (String.ofList text) = .error error) ∧
      IsHost (unbracketed text) ∧ destination = ⟨String.ofList (unbracketed text), defaultPort⟩

/-- A name with a text behind its colon that is no port. -/
structure WrongPort (name port : List Char) : Prop where
  isName : IsName name
  plain : ∀ c ∈ port, isPlain c = true
  unread : readUInt16? port = none

variable {entry : String} {text name port : List Char} {ip : IpAddress} {destination : Destination}

theorem writesIpv6_eq (noPercent : '%' ∉ text) :
    writesIpv6 text = (Ipv6.ofChars? text).isSome := by
  have all : text.takeWhile (· ≠ '%') = text := by
    rw [List.takeWhile_eq_self_iff]
    intro c member
    rw [decide_eq_true_eq]
    rintro rfl
    exact noPercent member
  unfold writesIpv6
  rw [all]

theorem writesIpv6_of_ip (read : IpAddress.ofChars? text = some ip) (colon : ':' ∈ text) :
    writesIpv6 text = true := by
  rcases IpAddress.ofChars?_cases read with ⟨address, found, -⟩ | ⟨address, found, -⟩
  · exact absurd ((Ipv4.isMark_of_ofChars? found).2 ':' colon) (by decide)
  · have isText := Ipv6.isText_of_ofChars? found
    rw [writesIpv6_eq (isText.not_mem (by decide)), found]
    rfl

theorem head?_unbracketed (text : List Char) : (unbracketed text).head? ≠ some '[' := by
  intro first
  obtain ⟨rest, whole⟩ := dropEndWhile_prefix (· = ']') (text.dropWhile (· = '['))
  have starts : (text.dropWhile (· = '[')).head? = some '[' := by
    rw [← whole, List.head?_append]
    unfold unbracketed at first
    rw [first]
    rfl
  exact absurd (head?_dropWhile starts) (by decide)

/-- Blanks around an entry make no difference. -/
theorem ofEntry_trimmed (entry : String) :
    ofEntry (String.ofList (trimmed entry.toList)) = ofEntry entry := by
  unfold ofEntry
  rw [String.toList_ofList, trimmed_trimmed]

/-- The contact point of an IP address is read with the address. -/
theorem not_looks_of_ip (read : IpAddress.ofChars? (trimmed entry.toList) = some ip)
    (parsed : Destination.parse (ofEntry entry) = .ok destination) :
    ¬ LooksLikeIpv6 destination.host := by
  intro looks
  have holds : Holds (String.ofList (trimmed entry.toList)) (trimmed entry.toList) :=
    ⟨[], [], by simp, by simp, by simp⟩
  have again := parse_ofEntry_of_ip holds read
  have written : (toString ip).toList = ip.toChars := String.toList_ofList
  rw [ofEntry_trimmed, parsed] at again
  obtain ⟨colon, noAddress⟩ := looks
  rw [Except.ok.inj again, written] at colon noAddress
  rw [writesIpv6_of_ip ip.ofChars?_toChars colon] at noAddress
  cases noAddress

theorem misread_iff (entry : String) (destination : Destination) :
    Destination.parse (ofEntry entry) = .ok destination ∧ LooksLikeIpv6 destination.host ↔
      Misread (trimmed entry.toList) destination := by
  cases read : IpAddress.ofChars? (trimmed entry.toList) with
  | some ip =>
      constructor
      · rintro ⟨parsed, looks⟩
        exact absurd looks (not_looks_of_ip read parsed)
      · intro misread
        rw [misread.noIp] at read
        cases read
  | none =>
      cases parsed : Destination.parse (String.ofList (trimmed entry.toList)) with
      | ok found =>
          have isHost := Destination.isHost_of_parse parsed
          have point : ofEntry entry = found.authority := by
            unfold ofEntry
            dsimp only
            rw [read, parsed]
          have reads := @Destination.parse_authority_colon_iff found destination isHost.head?_ne
          rw [point]
          constructor
          · rintro ⟨again, looks⟩
            obtain ⟨-, -, same⟩ := reads.mp ⟨again, looks.colon⟩
            exact ⟨read, looks, .inl (by rw [parsed, same])⟩
          · rintro ⟨-, looks, again | ⟨⟨_, failed⟩, -⟩⟩
            · rw [parsed] at again
              cases again
              exact ⟨(reads.mpr ⟨isHost, looks.colon, rfl⟩).1, looks⟩
            · rw [parsed] at failed
              cases failed
      | error problem =>
          have point : ofEntry entry = Destination.authority
              ⟨String.ofList (unbracketed (trimmed entry.toList)), defaultPort⟩ := by
            unfold ofEntry
            dsimp only
            rw [read, parsed]
          have reads := @Destination.parse_authority_colon_iff
            ⟨String.ofList (unbracketed (trimmed entry.toList)), defaultPort⟩ destination
          simp only [String.toList_ofList] at reads
          replace reads := reads (head?_unbracketed _)
          rw [point]
          constructor
          · rintro ⟨again, looks⟩
            obtain ⟨isHost, -, same⟩ := reads.mp ⟨again, looks.colon⟩
            exact ⟨read, looks, .inr ⟨⟨problem, parsed⟩, isHost, same⟩⟩
          · rintro ⟨-, looks, again | ⟨-, isHost, same⟩⟩
            · rw [parsed] at again
              cases again
            · have colon : ':' ∈ unbracketed (trimmed entry.toList) := by
                have inHost := looks.colon
                rw [same, String.toList_ofList] at inHost
                exact inHost
              exact ⟨(reads.mpr ⟨isHost, colon, same⟩).1, looks⟩

namespace WrongPort

theorem not_mem (wrong : WrongPort name port) {mark : Char} (other : isPlain mark = false) :
    mark ∉ port := by
  intro member
  rw [wrong.plain mark member] at other
  cases other

theorem not_mem_text (wrong : WrongPort name port) {mark : Char} (other : isPlain mark = false)
    (noColon : mark ≠ ':') : mark ∉ name ++ ':' :: port := by
  rw [List.mem_append, List.mem_cons, not_or, not_or]
  exact ⟨wrong.isName.not_mem other, noColon, wrong.not_mem other⟩

theorem allowed (wrong : WrongPort name port) : ∀ c ∈ name ++ ':' :: port, Allowed c := by
  intro c member
  rcases List.mem_append.mp member with inName | behind
  · exact wrong.isName.allowed c inName
  · rcases List.mem_cons.mp behind with colon | inPort
    · exact .inl colon
    · exact allowed_of_isPlain (wrong.plain c inPort)

theorem count_colon (wrong : WrongPort name port) : (name ++ ':' :: port).count ':' = 1 := by
  rw [List.count_append, List.count_eq_zero_of_not_mem (wrong.isName.not_mem (by decide)),
    List.count_cons_self, List.count_eq_zero_of_not_mem (wrong.not_mem (by decide))]

theorem parse_error (wrong : WrongPort name port) :
    ∃ error, Destination.parse (String.ofList (name ++ ':' :: port)) = .error error := by
  apply Destination.parse_error_of_port wrong.allowed
  intro found cut
  unfold portText? at cut
  rw [cutAtLast?_append_cons name (wrong.not_mem (by decide))] at cut
  cases cut
  exact wrong.unread

theorem isHost (wrong : WrongPort name port) : IsHost (name ++ ':' :: port) := by
  refine ⟨wrong.allowed, wrong.not_mem_text (by decide) (by decide), .inBrackets (by simp) ?_ ?_ ?_⟩
  · exact wrong.not_mem_text (by decide) (by decide)
  · exact wrong.not_mem_text (by decide) (by decide)
  · rw [wrong.count_colon]
    decide

theorem unbracketed_eq (wrong : WrongPort name port) :
    unbracketed (name ++ ':' :: port) = name ++ ':' :: port := by
  apply unbracketed_eq_self
  · intro first
    exact wrong.not_mem_text (by decide) (by decide) (List.mem_of_head? first)
  · intro last
    exact wrong.not_mem_text (by decide) (by decide) (List.mem_of_getLast? last)

theorem looks (wrong : WrongPort name port) :
    LooksLikeIpv6 (String.ofList (name ++ ':' :: port)) := by
  refine ⟨by simp, ?_⟩
  rw [String.toList_ofList, writesIpv6_eq (wrong.not_mem_text (by decide) (by decide))]
  cases found : Ipv6.ofChars? (name ++ ':' :: port) with
  | none => rfl
  | some address =>
      have two := (Ipv6.isText_of_ofChars? found).atLeast
      have one := wrong.count_colon
      omega

/-- All of such a text is taken for a host. -/
theorem misread (wrong : WrongPort name port) :
    Misread (name ++ ':' :: port) ⟨String.ofList (name ++ ':' :: port), defaultPort⟩ := by
  refine ⟨noIp_of_one_colon wrong.count_colon, wrong.looks, .inr ⟨wrong.parse_error, ?_⟩⟩
  rw [wrong.unbracketed_eq]
  exact ⟨wrong.isHost, rfl⟩

end WrongPort

/-- A contact point has a host with a colon that is no IPv6 address exactly if the entry has such a
host in brackets in front of a port, or is such a host as a whole. A name with a port that is none
is one of these. -/
theorem host_with_colon_iff (entry : String) :
    (∀ destination,
      Destination.parse (ofEntry entry) = .ok destination ∧ LooksLikeIpv6 destination.host ↔
        Misread (trimmed entry.toList) destination) ∧
    ∀ name port, WrongPort name port → Holds entry (name ++ ':' :: port) →
      Misread (trimmed entry.toList) ⟨String.ofList (name ++ ':' :: port), 9042⟩ := by
  constructor
  · exact misread_iff entry
  · intro name port wrong holds
    rw [holds.trimmed_eq wrong.allowed]
    exact wrong.misread

/-- A port that is missing behind its colon, or too great, stays with the name. -/
theorem name_keeps_wrong_port :
    Destination.parse (ofEntry "db.internal:") = .ok ⟨"db.internal:", 9042⟩ ∧
    Destination.parse (ofEntry " db.internal:65536 ") = .ok ⟨"db.internal:65536", 9042⟩ := by
  have isName : IsName "db.internal".toList := ⟨by simp, by simp⟩
  have nothing : WrongPort "db.internal".toList [] := ⟨isName, by simp, by decide⟩
  have great : WrongPort "db.internal".toList "65536".toList :=
    ⟨isName, by simp [isPlain], by decide⟩
  obtain ⟨one, oneWrong⟩ := host_with_colon_iff "db.internal:"
  obtain ⟨other, otherWrong⟩ := host_with_colon_iff " db.internal:65536 "
  constructor
  · exact ((one _).mpr (oneWrong _ _ nothing ⟨[], [], by simp, by simp, by simp⟩)).1
  · exact ((other _).mpr (otherWrong _ _ great
      ⟨[' '], [' '], by simp, by simp [isBlank], by simp [isBlank]⟩)).1

/-- Not every host with a colon is an IPv6 address: one is a name with the text of its port, and one
has been put in brackets by hand. -/
theorem hosts_with_colon_that_are_no_ipv6 :
    (Destination.parse (ofEntry "db.internal:99999") = .ok ⟨"db.internal:99999", 9042⟩ ∧
      ':' ∈ "db.internal:99999".toList ∧ writesIpv6 "db.internal:99999".toList = false) ∧
    (Destination.parse (ofEntry "[a:b]:80") = .ok ⟨"a:b", 80⟩ ∧
      ':' ∈ "a:b".toList ∧ writesIpv6 "a:b".toList = false) := by
  decide +kernel

end ContactPoint

end ProxyDial
