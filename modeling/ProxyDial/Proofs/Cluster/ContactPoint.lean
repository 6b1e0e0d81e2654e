import Mathlib.Data.List.Forall2
import ProxyDial.Cluster.Config
import ProxyDial.Proofs.Address.Marks
import ProxyDial.Proofs.Destination.Grammar

set_option autoImplicit false

/-! Contact points keep what is listed. An entry is tried as an IP address, then as a host with a
port, and else it is a host; no entry of one form is taken for one of another. -/

namespace ProxyDial
open Text

namespace Destination
open Authority

variable {host : String}

/-- A host of letters, digits and the marks of names is read as it is. -/
theorem parse_authority_of_plain (plain : ∀ c ∈ host.toList, isPlain c = true) (port : UInt16) :
    parse (authority ⟨host, port⟩) = .ok ⟨host, port⟩ := by
  have absent {mark : Char} (other : isPlain mark = false) : mark ∉ host.toList := by
    intro member
    rw [plain mark member] at other
    cases other
  have noOpening : '[' ∉ host.toList := absent (by decide)
  have noClosing : ']' ∉ host.toList := absent (by decide)
  have noPercent : '%' ∉ host.toList := absent (by decide)
  have isHost : IsHost host.toList := by
    refine ⟨fun c member => allowed_of_isPlain (plain c member), absent (by decide),
      .bare (absent (by decide)) ?_ ?_ fun opens => absurd opens noOpening⟩
    · exact fun first => noOpening (List.mem_of_head? first)
    · exact fun last => noClosing (List.mem_of_getLast? last)
  have rereads : Rereads host.toList := by
    refine .inr ⟨?_, fun percent => absurd percent noPercent⟩
    exact ⟨fun opens => absurd opens noOpening, fun closes => absurd closes noClosing⟩
  rw [parse_authority_of_isHost isHost, if_pos rereads]

theorem isPlain_of_isHexDigit {c : Char} (hex : Ipv6.isHexDigit c = true) : isPlain c = true := by
  have alphanumeric : c.isAlphanum = true := by
    unfold Ipv6.isHexDigit hexDigitValue? at hex
    unfold Char.isAlphanum Char.isAlpha Char.isUpper Char.isLower Char.isDigit
    simp only [Char.le_def, Char.reduceVal, UInt32.le_iff_toNat_le, UInt32.reduceToNat] at hex
    simp only [Bool.or_eq_true, Bool.and_eq_true, decide_eq_true_eq, UInt32.le_iff_toNat_le,
      ge_iff_le, Char.reduceVal, UInt32.reduceToNat]
    split at hex
    · omega
    · split at hex
      · omega
      · split at hex
        · omega
        · cases hex
  unfold isPlain
  rw [alphanumeric]
  rfl

theorem isPlain_or_colon_of_isMark {c : Char} (mark : Ipv6.IsMark c) :
    isPlain c = true ∨ c = ':' := by
  rcases mark with hex | dot | colon
  · exact .inl (isPlain_of_isHexDigit hex)
  · subst dot
    exact .inl (by decide)
  · exact .inr colon

theorem allowed_of_isText {text : List Char} (isText : Ipv6.IsText text) :
    ∀ c ∈ text, Allowed c := by
  intro c member
  rcases isPlain_or_colon_of_isMark (isText.marks c member) with plain | colon
  · exact allowed_of_isPlain plain
  · exact .inl colon

/-- The text of an IPv6 address is read as it is. -/
theorem parse_authority_of_isText (isText : Ipv6.IsText host.toList) (port : UInt16) :
    parse (authority ⟨host, port⟩) = .ok ⟨host, port⟩ := by
  have absent {mark : Char} (other : ¬ Ipv6.IsMark mark) : mark ∉ host.toList :=
    fun member => other (isText.marks mark member)
  have colon : ':' ∈ host.toList := List.count_pos_iff.mp (by have := isText.atLeast; omega)
  have isHost : IsHost host.toList :=
    ⟨allowed_of_isText isText, absent (by decide),
      .inBrackets colon (absent (by decide)) (absent (by decide)) isText.atMost⟩
  rw [parse_authority_of_isHost isHost, if_pos (.inl colon)]

/-- A text without a port at its end is read as no destination. -/
theorem parse_error_of_port {text : List Char} (allowed : ∀ c ∈ text, Allowed c)
    (none : ∀ port, portText? text = some port → readUInt16? port = none) :
    ∃ error, parse (String.ofList text) = .error error := by
  have noPort : (portText? text).bind readUInt16? = Option.none := by
    cases cut : portText? text with
    | none => rfl
    | some port => exact none port cut
  unfold parse
  rw [String.toList_ofList, trimmed_of_allowed allowed]
  dsimp only
  split
  · exact ⟨_, rfl⟩
  · rw [noPort]
    exact ⟨_, rfl⟩

end Destination

namespace ContactPoint
open Authority

/-- An entry holds a text, and nothing but blanks around it. -/
def Holds (entry : String) (text : List Char) : Prop :=
  ∃ front back, entry.toList = front ++ text ++ back ∧ (∀ c ∈ front, isBlank c = true) ∧
    ∀ c ∈ back, isBlank c = true

variable {entry : String} {text name : List Char} {ip : IpAddress} {address : Ipv6}

theorem Holds.trimmed_eq (holds : Holds entry text) (allowed : ∀ c ∈ text, Allowed c) :
    trimmed entry.toList = text := by
  obtain ⟨front, back, whole, blankFront, blankBack⟩ := holds
  rw [whole]
  exact trimmed_between blankFront blankBack fun c member => isBlank_of_allowed (allowed c member)

theorem ofEntry_of_ip (holds : Holds entry text) (allowed : ∀ c ∈ text, Allowed c)
    (read : IpAddress.ofChars? text = some ip) :
    ofEntry entry = Destination.authority ⟨toString ip, defaultPort⟩ := by
  unfold ofEntry
  dsimp only
  rw [holds.trimmed_eq allowed, read]

theorem ofEntry_of_parse (holds : Holds entry text) (allowed : ∀ c ∈ text, Allowed c)
    (noIp : IpAddress.ofChars? text = none) {destination : Destination}
    (parsed : Destination.parse (String.ofList text) = .ok destination) :
    ofEntry entry = destination.authority := by
  unfold ofEntry
  dsimp only
  rw [holds.trimmed_eq allowed, noIp, parsed]

theorem ofEntry_of_bare (holds : Holds entry text) (allowed : ∀ c ∈ text, Allowed c)
    (noIp : IpAddress.ofChars? text = none)
    (failed : ∃ error, Destination.parse (String.ofList text) = .error error) :
    ofEntry entry =
      Destination.authority ⟨String.ofList (unbracketed text), defaultPort⟩ := by
  obtain ⟨error, failed⟩ := failed
  unfold ofEntry
  dsimp only
  rw [holds.trimmed_eq allowed, noIp, failed]

theorem isPlain_of_ipv4 {c : Char} (mark : Ipv4.IsMark c) : isPlain c = true := by
  rcases mark with digit | dot
  · exact isPlain_of_isDigit digit
  · subst dot
    decide

theorem allowed_of_ip (read : IpAddress.ofChars? text = some ip) : ∀ c ∈ text, Allowed c := by
  intro c member
  rcases IpAddress.marks_of_ofChars? read with marks | isText
  · exact allowed_of_isPlain (isPlain_of_ipv4 (marks c member))
  · exact Destination.allowed_of_isText isText c member

/-- An IP address is read again from its own form, whatever it was written like. -/
theorem parse_ofEntry_of_ip (holds : Holds entry text)
    (read : IpAddress.ofChars? text = some ip) :
    Destination.parse (ofEntry entry) = .ok ⟨toString ip, defaultPort⟩ := by
  have again := ip.ofChars?_toChars
  have written : (toString ip).toList = ip.toChars := String.toList_ofList
  rw [ofEntry_of_ip holds (allowed_of_ip read) read]
  rcases IpAddress.marks_of_ofChars? again with marks | isText
  · rw [← written] at marks
    exact Destination.parse_authority_of_plain (fun c member => isPlain_of_ipv4 (marks c member)) _
  · rw [← written] at isText
    exact Destination.parse_authority_of_isText isText _

theorem noIp_of_bracket (bracket : '[' ∈ text) : IpAddress.ofChars? text = none := by
  cases read : IpAddress.ofChars? text with
  | none => rfl
  | some ip =>
      rcases IpAddress.marks_of_ofChars? read with marks | isText
      · exact absurd (marks '[' bracket) (by decide)
      · exact absurd (isText.marks '[' bracket) (by decide)

/-- One colon is too few for an IP address with colons. -/
theorem noIp_of_one_colon (one : text.count ':' = 1) : IpAddress.ofChars? text = none := by
  cases read : IpAddress.ofChars? text with
  | none => rfl
  | some ip =>
      rcases IpAddress.marks_of_ofChars? read with marks | isText
      · have colon : ':' ∈ text := List.count_pos_iff.mp (by omega)
        exact absurd (marks ':' colon) (by decide)
      · have two := isText.atLeast
        omega

/-- Behind the last colon of an address in brackets there is the closing bracket, which is no part
of a port. -/
theorem noPort_of_brackets (colon : ':' ∈ text) {port : List Char}
    (cut : portText? ('[' :: text ++ [']']) = some port) : readUInt16? port = none := by
  obtain ⟨before, behind, split, noColon⟩ := exists_last_mark colon
  have whole : '[' :: text ++ [']'] = ('[' :: before) ++ ':' :: (behind ++ [']']) := by
    rw [split]
    simp
  have none : ':' ∉ behind ++ [']'] := by simp [noColon]
  unfold portText? at cut
  rw [whole, cutAtLast?_append_cons _ none] at cut
  cases cut
  cases read : readUInt16? (behind ++ [']']) with
  | none => rfl
  | some number =>
      have absent : ']' ∉ behind ++ [']'] :=
        Destination.not_mem_of_read read (by decide) (by decide)
      simp at absent

/-- An entry that is an address already is read as that address. -/
theorem parse_ofEntry_of_authority {destination : Destination}
    (written : destination.authority.toList = text) (holds : Holds entry text)
    (allowed : ∀ c ∈ text, Allowed c) (noIp : IpAddress.ofChars? text = none)
    (parsed : Destination.parse destination.authority = .ok destination) :
    Destination.parse (ofEntry entry) = .ok destination := by
  have again : Destination.parse (String.ofList text) = .ok destination := by
    rw [← written, String.ofList_toList]
    exact parsed
  rw [ofEntry_of_parse holds allowed noIp again, parsed]

section
variable {host : String}

/-- An IPv6 address in brackets gets the default port. -/
theorem parse_ofEntry_of_brackets (isText : Ipv6.IsText host.toList)
    (holds : Holds entry ('[' :: host.toList ++ [']'])) :
    Destination.parse (ofEntry entry) = .ok ⟨host, defaultPort⟩ := by
  have noOpening : '[' ∉ host.toList := isText.not_mem (by decide)
  have noClosing : ']' ∉ host.toList := isText.not_mem (by decide)
  have allowed := allowed_brackets (Destination.allowed_of_isText isText)
  have failed := Destination.parse_error_of_port allowed fun _ => noPort_of_brackets isText.colon
  rw [ofEntry_of_bare holds allowed (noIp_of_bracket (.head _)) failed,
    unbracketed_brackets noOpening noClosing, String.ofList_toList]
  exact Destination.parse_authority_of_isText isText _

theorem parse_ofEntry_of_brackets_port (isText : Ipv6.IsText host.toList) {port : UInt16}
    (holds : Holds entry ('[' :: host.toList ++ [']'] ++ ':' :: decimalDigits port.toNat)) :
    Destination.parse (ofEntry entry) = .ok ⟨host, port⟩ := by
  have noOpening : '[' ∉ host.toList := isText.not_mem (by decide)
  have allowed := List.forall_mem_append.mpr
    ⟨allowed_brackets (Destination.allowed_of_isText isText), allowed_portPart port⟩
  apply parse_ofEntry_of_authority ?_ holds allowed (noIp_of_bracket (.head _))
  · exact Destination.parse_authority_of_isText isText port
  · exact Destination.toList_authority_of_colon isText.colon
      fun first => noOpening (List.mem_of_head? first)

/-- A name as operators write one. -/
structure IsName (name : List Char) : Prop where
  notEmpty : name ≠ []
  characters : ∀ c ∈ name, c.isAlphanum = true ∨ c = '-' ∨ c = '_' ∨ c = '.'

theorem IsName.plain (isName : IsName text) : ∀ c ∈ text, isPlain c = true := by
  intro c member
  unfold isPlain
  rcases isName.characters c member with alphanumeric | rfl | rfl | rfl
  · rw [alphanumeric]
    rfl
  · decide
  · decide
  · decide

theorem IsName.not_mem (isName : IsName text) {mark : Char} (other : isPlain mark = false) :
    mark ∉ text := by
  intro member
  rw [isName.plain mark member] at other
  cases other

theorem IsName.allowed (isName : IsName text) : ∀ c ∈ text, Allowed c :=
  fun c member => allowed_of_isPlain (isName.plain c member)

/-- A name that is no IP address gets the default port. -/
theorem parse_ofEntry_of_name (isName : IsName host.toList)
    (noIp : IpAddress.ofChars? host.toList = none) (holds : Holds entry host.toList) :
    Destination.parse (ofEntry entry) = .ok ⟨host, defaultPort⟩ := by
  have noPort : ∀ port, portText? host.toList = some port → readUInt16? port = none := by
    intro port cut
    unfold portText? at cut
    rw [cutAtLast?_of_not_mem (isName.not_mem (by decide))] at cut
    cases cut
  have bare : unbracketed host.toList = host.toList :=
    unbracketed_eq_self (fun first => isName.not_mem (by decide) (List.mem_of_head? first))
      fun last => isName.not_mem (by decide) (List.mem_of_getLast? last)
  rw [ofEntry_of_bare holds isName.allowed noIp
    (Destination.parse_error_of_port isName.allowed noPort), bare, String.ofList_toList]
  exact Destination.parse_authority_of_plain isName.plain _

theorem parse_ofEntry_of_name_port (isName : IsName host.toList) {port : UInt16}
    (holds : Holds entry (host.toList ++ ':' :: decimalDigits port.toNat)) :
    Destination.parse (ofEntry entry) = .ok ⟨host, port⟩ := by
  have noColon : ':' ∉ host.toList := isName.not_mem (by decide)
  have allowed := List.forall_mem_append.mpr ⟨isName.allowed, allowed_portPart port⟩
  have one : (host.toList ++ ':' :: decimalDigits port.toNat).count ':' = 1 := by
    rw [List.count_append, List.count_eq_zero_of_not_mem noColon, List.count_cons_self,
      List.count_eq_zero_of_not_mem (not_mem_digits (by decide) port)]
  apply parse_ofEntry_of_authority ?_ holds allowed (noIp_of_one_colon one)
  · exact Destination.parse_authority_of_plain isName.plain port
  · exact Destination.toList_authority_of_bare noColon

end

/-- What a contact point keeps of the entry that it stands for: an IP address, whatever it is
written like; an IPv6 address in brackets, as it is written; or a name. -/
structure Keeps (entry point : String) : Prop where
  ip : ∀ text ip, IpAddress.ofChars? text = some ip → Holds entry text → ∃ host,
    Destination.parse point = .ok ⟨host, 9042⟩ ∧ IpAddress.ofString? host = some ip
  bracketed : ∀ host : String, (Ipv6.ofChars? host.toList).isSome →
    (Holds entry ('[' :: host.toList ++ [']']) →
      Destination.parse point = .ok ⟨host, 9042⟩) ∧
    ∀ port : UInt16,
      Holds entry ('[' :: host.toList ++ [']'] ++ ':' :: decimalDigits port.toNat) →
        Destination.parse point = .ok ⟨host, port⟩
  named : ∀ name : String, IsName name.toList →
    (IpAddress.ofChars? name.toList = none → Holds entry name.toList →
      Destination.parse point = .ok ⟨name, 9042⟩) ∧
    ∀ port : UInt16, Holds entry (name.toList ++ ':' :: decimalDigits port.toNat) →
      Destination.parse point = .ok ⟨name, port⟩

theorem keeps_ofEntry (entry : String) : Keeps entry (ofEntry entry) where
  ip text ip read holds := by
    refine ⟨toString ip, parse_ofEntry_of_ip holds read, ?_⟩
    have written : (toString ip).toList = ip.toChars := String.toList_ofList
    rw [IpAddress.ofString?, written]
    exact ip.ofChars?_toChars
  bracketed host isSome := by
    obtain ⟨address, read⟩ := Option.isSome_iff_exists.mp isSome
    have isText := Ipv6.isText_of_ofChars? read
    exact ⟨parse_ofEntry_of_brackets isText, fun _ => parse_ofEntry_of_brackets_port isText⟩
  named name isName :=
    ⟨parse_ofEntry_of_name isName, fun _ => parse_ofEntry_of_name_port isName⟩

end ContactPoint

namespace ClusterConfig
open ContactPoint

/-- Each host gets one contact point, in the same order, which keeps what was written. All spellings
of an IP address get the same one. -/
theorem contactPoints_keep_hosts (config : ClusterConfig) :
    List.Forall₂ Keeps config.hosts config.contactPoints.addresses ∧
    ∀ ip, ∃ point, ∀ (index : Nat) entry text, config.hosts[index]? = some entry →
      Holds entry text → IpAddress.ofChars? text = some ip →
        config.contactPoints.addresses[index]? = some point := by
  constructor
  · exact List.forall₂_map_right_iff.mpr (List.forall₂_same.mpr fun entry _ => keeps_ofEntry entry)
  · intro ip
    refine ⟨Destination.authority ⟨toString ip, defaultPort⟩, ?_⟩
    intro index entry text listed holds read
    rw [← ofEntry_of_ip holds (allowed_of_ip read) read]
    exact (List.getElem?_map ..).trans (by rw [listed]; rfl)

/-- Blanks, letters of the other case and zeros that are written make no difference. -/
theorem contactPoints_of_two_spellings : ∃ point,
    (ofHosts ["fd00::5", " FD00:0::0005 "]).contactPoints.addresses[0]? = some point ∧
    (ofHosts ["fd00::5", " FD00:0::0005 "]).contactPoints.addresses[1]? = some point := by
  have one : IpAddress.ofChars? "fd00::5".toList =
      some (.v6 (.ofList [0xfd00, 0, 0, 0, 0, 0, 0, 5])) := by decide +kernel
  have other : IpAddress.ofChars? "FD00:0::0005".toList =
      some (.v6 (.ofList [0xfd00, 0, 0, 0, 0, 0, 0, 5])) := by decide +kernel
  obtain ⟨-, same⟩ := contactPoints_keep_hosts (ofHosts ["fd00::5", " FD00:0::0005 "])
  obtain ⟨point, gets⟩ := same (.v6 (.ofList [0xfd00, 0, 0, 0, 0, 0, 0, 5]))
  have bare : Holds "fd00::5" "fd00::5".toList := ⟨[], [], by simp, by simp, by simp⟩
  have blanks : Holds " FD00:0::0005 " "FD00:0::0005".toList :=
    ⟨[' '], [' '], by simp, by simp [isBlank], by simp [isBlank]⟩
  exact ⟨point, gets 0 _ _ rfl bare one, gets 1 _ _ rfl blanks other⟩

end ClusterConfig

end ProxyDial
