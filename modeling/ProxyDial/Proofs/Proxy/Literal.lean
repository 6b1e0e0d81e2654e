import ProxyDial.Proofs.Address.LastGroup
import ProxyDial.Proofs.Destination.Grammar
import ProxyDial.Proofs.Proxy.Password
import ProxyDial.Proofs.Url.Numbers

set_option autoImplicit false

/-! IP addresses as proxy settings. An IPv4 address names the proxy at that address. An IPv6 address
without brackets does so unless its last group is written in decimal digits: these are taken for a
port then. -/

namespace ProxyDial
open Text

namespace Proxy
open Destination

variable {text : List Char} {address : Ipv6} {group : UInt16} {front : List Char}

/-- The proxy that a dialer uses if it is told a host only. -/
def atDefault (shape : DialerShape) (host : String) : Proxy :=
  ⟨shape.defaultScheme, host, shape.defaultScheme.defaultPort, none⟩

theorem facts_of_isMark {c : Char} (mark : Ipv6.IsMark c) :
    isBlank c = false ∧ c ≠ '/' ∧ c ≠ '+' :=
  Ipv6.forall_isMark (p := fun c => isBlank c = false ∧ c ≠ '/' ∧ c ≠ '+') (by decide +kernel)
    (by decide) (by decide) mark

theorem unbracketed_of_marks (marks : ∀ c ∈ text, Ipv6.IsMark c) : unbracketed text = text := by
  apply unbracketed_eq_self
  · exact fun first => absurd (marks '[' (List.mem_of_head? first)) (by decide)
  · exact fun last => absurd (marks ']' (List.mem_of_getLast? last)) (by decide)

/-- A setting in the characters of IP addresses has no scheme: all of it is the server. -/
theorem resolve_of_marks (shape : DialerShape) (environment : Environment) (filled : text ≠ [])
    (marks : ∀ c ∈ text, Ipv6.IsMark c) :
    resolve shape (some (String.ofList text)) environment =
      .ok (some (ofRest shape.defaultScheme shape.defaultScheme.defaultPort text)) := by
  obtain ⟨c, member⟩ := List.exists_mem_of_ne_nil text filled
  have written : (String.ofList text).toList = text := String.toList_ofList
  have trims : trimmed text = text := by
    apply trimmed_eq_self
    · exact fun c first => (facts_of_isMark (marks c (List.mem_of_head? first))).1
    · exact fun c last => (facts_of_isMark (marks c (List.mem_of_getLast? last))).1
  have set : setting? (some (String.ofList text)) environment = some (String.ofList text) := by
    unfold setting?
    rw [nonBlank?_of_filled (written.symm ▸ member) (facts_of_isMark (marks c member)).1, trim,
      written, trims]
    rfl
  have noSlash : '/' ∉ text := fun member => (facts_of_isMark (marks '/' member)).2.1 rfl
  have uncut : cutAtText? ProxyScheme.mark text = none :=
    cutAtText?_of_not_mem (by decide : '/' ∈ ProxyScheme.mark) noSlash
  unfold resolve
  rw [set]
  dsimp only
  rw [ofText_of_uncut (written.symm ▸ uncut), written]
  rfl

theorem resolve_ipv4 (shape : DialerShape) (environment : Environment) (address : Ipv4) :
    resolve shape (some (toString address)) environment =
      .ok (some (atDefault shape (toString address))) := by
  have marks : ∀ c ∈ address.toChars, Ipv6.IsMark c :=
    fun c member => Ipv6.isMark_of_ipv4 (Ipv4.isMark_of_mem_toChars member)
  have filled : address.toChars ≠ [] := by simp [Ipv4.toChars]
  obtain ⟨named, read, same⟩ := Url.ofChars?_ipv4 (urlKind shape.defaultScheme) address
  change resolve shape (some (String.ofList address.toChars)) environment = _
  rw [resolve_of_marks shape environment filled marks]
  unfold ofRest
  rw [read]
  dsimp only [ofUrl]
  rw [same, unbracketed_of_marks marks]
  rfl

/-- Taken as it stands, an IPv6 address is cut at its last colon if a port stands behind it. -/
theorem verbatim_ipv6 (scheme : ProxyScheme)
    (split : address.toChars = front ++ ':' :: address.tail) :
    verbatim scheme address.toChars = match readUInt16? address.tail with
      | some port => ⟨scheme, String.ofList front, port, none⟩
      | none => ⟨scheme, toString address, scheme.defaultPort, none⟩ := by
  have isText := Ipv6.isText_of_ofChars? address.ofChars?_toChars
  have cut : cutAtLast? ':' address.toChars = some (front, address.tail) := by
    rw [split]
    exact cutAtLast?_append_cons front address.colon_not_mem_tail
  have another : ':' ∈ front :=
    (split ▸ isText).another_colon.resolve_right address.colon_not_mem_tail
  have filled : front.isEmpty = false := by
    rw [List.isEmpty_eq_false_iff]
    exact List.ne_nil_of_mem another
  have bare : unbracketed front = front := by
    apply unbracketed_of_marks
    intro c member
    apply isText.marks
    rw [split]
    exact List.mem_append_left _ member
  unfold verbatim
  rw [cut]
  dsimp only
  cases readUInt16? address.tail with
  | none => rfl
  | some port => simp [filled, bare]

theorem resolve_ipv6 (shape : DialerShape) (environment : Environment) (address : Ipv6) :
    resolve shape (some (toString address)) environment =
      .ok (some (verbatim shape.defaultScheme address.toChars)) := by
  have isText := Ipv6.isText_of_ofChars? address.ofChars?_toChars
  change resolve shape (some (String.ofList address.toChars)) environment = _
  rw [resolve_of_marks shape environment (List.ne_nil_of_mem isText.colon) isText.marks,
    ofRest_of_not_url _ (Url.ofChars?_ipv6 _ isText)]

theorem readUInt16?_tail_eq_none (lettered : ∀ group, address.lastGroup? = some group →
    ∃ c ∈ Ipv6.groupChars group, isDigit c = false) : readUInt16? address.tail = none := by
  cases read : readUInt16? address.tail with
  | none => rfl
  | some port =>
      -- A letter or a dot is in the way, or there is nothing to read.
      rcases address.tail_cases with ⟨group, last, tail⟩ | ⟨inner, tail⟩ | tail
      · obtain ⟨c, member, letter⟩ := lettered group last
        have hex : Ipv6.IsMark c := .inl (Ipv6.isHexDigit_of_mem_groupChars member)
        rw [tail] at read
        exact absurd member (not_mem_of_read read letter (facts_of_isMark hex).2.2)
      · have dot : '.' ∈ inner.toChars := by simp [Ipv4.toChars]
        rw [tail] at read
        exact absurd dot (not_mem_of_read read (by decide) (by decide))
      · rw [tail] at read
        cases read

theorem exists_port (digits : ∀ c ∈ Ipv6.groupChars group, isDigit c = true) :
    ∃ port, WritesPort port (Ipv6.groupChars group) ∧
      readUInt16? (Ipv6.groupChars group) = some port := by
  obtain ⟨filled, short⟩ := Ipv6.groupChars_length group
  have notEmpty : Ipv6.groupChars group ≠ [] := List.ne_nil_of_length_pos filled
  -- At most four digits stay below the largest port.
  have small : decimalValue (Ipv6.groupChars group) < 65536 := by
    have below := decimalValue_lt digits
    have room : 10 ^ (Ipv6.groupChars group).length ≤ 10 ^ 4 :=
      Nat.pow_le_pow_right (by decide) short
    omega
  refine ⟨UInt16.ofNat (decimalValue (Ipv6.groupChars group)), ?_, ?_⟩
  · exact ⟨notEmpty, digits, (UInt16.toNat_ofNat_of_lt' small).symm⟩
  · exact readUInt16?_of_digits notEmpty digits small

theorem resolve_ipv6_decimal (shape : DialerShape) (environment : Environment)
    (last : address.lastGroup? = some group)
    (digits : ∀ c ∈ Ipv6.groupChars group, isDigit c = true) :
    ∃ front port, address.toChars = front ++ ':' :: Ipv6.groupChars group ∧
      WritesPort port (Ipv6.groupChars group) ∧
      resolve shape (some (toString address)) environment =
        .ok (some ⟨shape.defaultScheme, String.ofList front, port, none⟩) := by
  obtain ⟨front, split⟩ := address.exists_front
  obtain ⟨port, writes, read⟩ := exists_port digits
  have tail := Ipv6.tail_of_lastGroup? last
  refine ⟨front, port, ?_, writes, ?_⟩
  · rw [split, tail]
  · rw [resolve_ipv6, verbatim_ipv6 _ split, tail, read]

theorem resolve_ipv6_lettered (shape : DialerShape) (environment : Environment)
    (lettered : ∀ group, address.lastGroup? = some group →
      ∃ c ∈ Ipv6.groupChars group, isDigit c = false) :
    resolve shape (some (toString address)) environment =
      .ok (some (atDefault shape (toString address))) := by
  obtain ⟨front, split⟩ := address.exists_front
  rw [resolve_ipv6, verbatim_ipv6 _ split, readUInt16?_tail_eq_none lettered]
  rfl

/-- The written form of an IPv4 address is the host of the proxy that it names. That of an IPv6
address is, exactly if it does not end with a group in decimal digits. If it does, the host is what
stands before the last colon, and the digits are the port. -/
theorem resolve_ip (shape : DialerShape) (environment : Environment) :
    (∀ address : Ipv4, resolve shape (some (toString address)) environment =
      .ok (some (atDefault shape (toString address)))) ∧
    ∀ address : Ipv6,
      (resolve shape (some (toString address)) environment =
          .ok (some (atDefault shape (toString address))) ↔
        ∀ group, address.lastGroup? = some group →
          ∃ c ∈ Ipv6.groupChars group, isDigit c = false) ∧
      ∀ group, address.lastGroup? = some group →
        (∀ c ∈ Ipv6.groupChars group, isDigit c = true) →
          ∃ front port, address.toChars = front ++ ':' :: Ipv6.groupChars group ∧
            WritesPort port (Ipv6.groupChars group) ∧
            resolve shape (some (toString address)) environment =
              .ok (some ⟨shape.defaultScheme, String.ofList front, port, none⟩) := by
  constructor
  · exact resolve_ipv4 shape environment
  intro address
  constructor
  · constructor
    · intro whole group last
      by_contra decimal
      have digits : ∀ c ∈ Ipv6.groupChars group, isDigit c = true := by simpa using decimal
      obtain ⟨front, port, split, -, found⟩ := resolve_ipv6_decimal shape environment last digits
      rw [whole] at found
      have hosts : toString address = String.ofList front :=
        congrArg Proxy.host (Option.some.inj (Except.ok.inj found))
      -- The host that is found is shorter than the address.
      have texts := congrArg (fun text => text.toList.length) hosts
      have written : (toString address).toList = address.toChars := String.toList_ofList
      simp [written, split] at texts
    · exact resolve_ipv6_lettered shape environment
  · intro group last digits
    exact resolve_ipv6_decimal shape environment last digits

/-- The last group of the loopback address is taken for a port. -/
theorem loopback_is_taken_apart :
    toString (Ipv6.ofList [0, 0, 0, 0, 0, 0, 0, 1]) = "::1" ∧
      resolve .address (some "::1") .empty = .ok (some ⟨.http, ":", 1, none⟩) ∧
      resolve .address (some "::1") .empty ≠ .ok (some ⟨.http, "::1", 80, none⟩) := by
  decide +kernel

end Proxy

end ProxyDial
