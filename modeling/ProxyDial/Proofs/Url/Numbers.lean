import ProxyDial.Proofs.Address.Marks
import ProxyDial.Proofs.Url.Bare
import ProxyDial.Proofs.Url.Letters

set_option autoImplicit false

/-! IP addresses where a URL has its authority. The written form of an IPv4 address is a host of
both kinds of URLs. The written form of an IPv6 address has more colons than an authority without
brackets can have. -/

namespace ProxyDial
open Text

namespace Ipv4

variable {address : Ipv4}

theorem ofNat_toNat (address : Ipv4) : ofNat address.toNat = address := by
  obtain ⟨a, b, c, d⟩ := address
  have small := And.intro a.toNat_lt (And.intro b.toNat_lt (And.intro c.toNat_lt d.toNat_lt))
  unfold ofNat toNat
  simp only [Ipv4.mk.injEq, ← UInt8.toNat_inj, UInt8.toNat_ofNat']
  omega

theorem splitOn_toChars (address : Ipv4) : address.toChars.splitOn '.' =
    address.octets.map fun octet => decimal octet.toNat := by
  have joined : address.toChars =
      ['.'].intercalate (address.octets.map fun octet => decimal octet.toNat) := by
    simp [toChars, octets, List.intercalate]
  have noDot : ∀ label ∈ address.octets.map (fun octet => decimal octet.toNat), '.' ∉ label := by
    intro label member
    obtain ⟨octet, -, rfl⟩ := List.mem_map.mp member
    exact fun dot => absurd (isDigit_of_mem_decimalDigits dot) (by decide)
  rw [joined, List.splitOn_intercalate '.' noDot (by simp [octets])]

theorem isMark_of_mem_toChars {c : Char} (member : c ∈ address.toChars) : IsMark c :=
  (isMark_of_ofChars? address.ofChars?_toChars).2 c member

/-- There are eleven characters that the written form can have. -/
theorem forall_mem_toChars {p : Char → Prop}
    (digits : ∀ number : Fin 10, p (Char.ofNat (48 + number))) (dot : p '.') :
    ∀ c ∈ address.toChars, p c := by
  intro c member
  rcases isMark_of_mem_toChars member with digit | rfl
  · rw [isDigit_eq] at digit
    obtain ⟨number, rfl⟩ := exists_of_isDigit digit
    exact digits number
  · exact dot

end Ipv4

namespace Ipv6

theorem ascii_of_isHexDigit {c : Char} (digit : isHexDigit c = true) : c.toNat < 128 := by
  unfold isHexDigit hexDigitValue? at digit
  simp only [Char.le_def, UInt32.le_iff_toNat_le] at digit
  unfold Char.toNat
  grind

/-- What is asked about the characters of an address is asked about those of ASCII. -/
theorem forall_isMark {p : Char → Prop} (digits : ∀ number : Fin 128,
      isHexDigit (Char.ofNat number) = true → p (Char.ofNat number))
    (dot : p '.') (colon : p ':') {c : Char} (mark : IsMark c) : p c := by
  rcases mark with digit | rfl | rfl
  · have found := digits ⟨c.toNat, ascii_of_isHexDigit digit⟩
    rw [Char.ofNat_toNat] at found
    exact found digit
  · exact dot
  · exact colon

end Ipv6

namespace UrlHost

theorem unchanged_ipv4 (address : Ipv4) : Unchanged address.toChars := by
  have plain : Idna.isPlain address.toChars = true := by
    unfold Idna.isPlain
    rw [Ipv4.splitOn_toChars, List.all_eq_true]
    intro label member
    obtain ⟨octet, -, rfl⟩ := List.mem_map.mp member
    rw [Bool.not_eq_true', Bool.eq_false_iff, Ne, List.isPrefixOf_iff_prefix]
    intro starts
    exact absurd (isDigit_of_mem_decimalDigits
      (starts.subset (by decide : '-' ∈ ['x', 'n', '-', '-']))) (by decide)
  exact {
    filled := by simp [Ipv4.toChars]
    lower := Ipv4.forall_mem_toChars (by decide) (by decide)
    ascii := Ipv4.forall_mem_toChars (by decide) (by decide)
    allowed := Ipv4.forall_mem_toChars (by decide) (by decide)
    shown := Ipv4.forall_mem_toChars (by decide) (by decide)
    plain := plain }

theorem ipv4Number?_decimal (octet : UInt8) :
    ipv4Number? (Ipv4.decimal octet.toNat) = some octet.toNat := by
  have all : ∀ number : Fin 256, ipv4Number? (Ipv4.decimal number.val) = some number.val := by
    decide +kernel
  exact all ⟨octet.toNat, octet.toNat_lt⟩

theorem labels_ipv4 (address : Ipv4) :
    labels address.toChars = address.octets.map fun octet => Ipv4.decimal octet.toNat := by
  unfold labels
  rw [Ipv4.splitOn_toChars]
  -- An empty label at the end would be left out.
  have filled : Ipv4.decimal address.d.toNat ≠ [] := decimalDigits_ne_nil _
  simp [Ipv4.octets, filled]

theorem endsInNumber_ipv4 (address : Ipv4) : endsInNumber address.toChars = true := by
  have number := ipv4Number?_decimal address.d
  unfold endsInNumber
  rw [labels_ipv4]
  simp [Ipv4.octets, number]

theorem ipv4?_toChars (address : Ipv4) : ipv4? address.toChars = some address := by
  have numbers : (labels address.toChars).mapM ipv4Number? =
      some (address.octets.map UInt8.toNat) := by
    rw [labels_ipv4]
    simp [Ipv4.octets, ipv4Number?_decimal]
  have small := And.intro address.a.toNat_lt (And.intro address.b.toNat_lt
    (And.intro address.c.toNat_lt address.d.toNat_lt))
  have value : ipv4OfNumbers? 4 (address.octets.map UInt8.toNat) = some address.toNat := by
    simp only [Ipv4.octets, List.map_cons, List.map_nil, ipv4OfNumbers?, small, if_true]
    simp only [Nat.pow_eq, Nat.reducePow, Option.map_some, Ipv4.toNat, Option.some.injEq]
    omega
  unfold ipv4?
  rw [numbers]
  simp [value, Ipv4.ofNat_toNat]

theorem ofChars?_ipv4 (kind : UrlKind) (address : Ipv4) :
    ∃ host, ofChars? kind address.toChars = some host ∧ host.toChars = address.toChars := by
  rw [(unchanged_ipv4 address).ofChars?_eq, endsInNumber_ipv4, ipv4?_toChars]
  cases kind with
  | generic => exact ⟨_, rfl, rfl⟩
  | web => exact ⟨_, rfl, rfl⟩

end UrlHost

namespace Url

variable {kind : UrlKind} {text : List Char}

/-- The written form of an IPv4 address is a URL without user and port. -/
theorem ofChars?_ipv4 (kind : UrlKind) (address : Ipv4) : ∃ host,
    ofChars? kind address.toChars = some ⟨[], [], host, none⟩ ∧
      host.toChars = address.toChars := by
  have inside : ∀ c ∈ address.toChars, Inside c :=
    Ipv4.forall_mem_toChars (by decide) (by decide)
  have unmarked : ∀ c ∈ address.toChars, c ≠ ':' ∧ c ≠ '[' ∧ c ≠ ']' :=
    Ipv4.forall_mem_toChars (by decide) (by decide)
  have noAt : '@' ∉ address.toChars :=
    fun member => absurd (Ipv4.isMark_of_mem_toChars member) (by decide)
  have split := splitHost_append kind inside unmarked []
  rw [List.append_nil] at split
  obtain ⟨host, named, written⟩ := UrlHost.ofChars?_ipv4 kind address
  have server : server? kind address.toChars = some (host, none) := by
    unfold server?
    rw [split]
    simp [splitHost, named, readPort?]
  refine ⟨host, ?_, written⟩
  rw [ofChars?_of_no_user inside noAt, server]
  rfl

theorem inside_of_isMark {c : Char} (mark : Ipv6.IsMark c) : Inside c :=
  Ipv6.forall_isMark (by decide +kernel) (by decide) (by decide) mark

/-- An IPv6 address without brackets is no URL. -/
theorem ofChars?_ipv6 (kind : UrlKind) (isText : Ipv6.IsText text) : ofChars? kind text = none := by
  have inside : ∀ c ∈ text, Inside c := fun c member => inside_of_isMark (isText.marks c member)
  -- What stands behind the first colon would be the port, and there is another colon in it.
  obtain ⟨host, rest, rfl, noColon⟩ := List.eq_append_cons_of_mem isText.colon
  have another : ':' ∈ rest := isText.another_colon.resolve_left noColon
  have unmarked : ∀ c ∈ host, c ≠ ':' ∧ c ≠ '[' ∧ c ≠ ']' := by
    intro c member
    have mark := isText.marks c (List.mem_append_left _ member)
    refine ⟨?_, ?_, ?_⟩
    · rintro rfl
      exact noColon member
    · rintro rfl
      exact absurd mark (by decide)
    · rintro rfl
      exact absurd mark (by decide)
  have noPort : readPort? (':' :: rest) = none :=
    readPort?_of_not_digit (fun c member => inside c (List.mem_append_right _ (.tail _ member)))
      another (by decide)
  have server : server? kind (host ++ ':' :: rest) = none := by
    have split := splitHost_append kind
      (fun c member => inside c (List.mem_append_left _ member)) unmarked (':' :: rest)
    unfold server?
    rw [split, splitHost_colon, List.append_nil]
    dsimp only
    rw [noPort]
    cases UrlHost.ofChars? kind host <;> rfl
  rw [ofChars?_of_no_user inside (isText.not_mem (by decide)), server]
  rfl

end Url

end ProxyDial
