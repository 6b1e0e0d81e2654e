import ProxyDial.Proofs.Text.Escaped
import ProxyDial.Url

set_option autoImplicit false

/-! Host names of small letters. URLs of both kinds read such a name as it is written: it is no
number, needs no other letters, and holds nothing that a host must not hold. -/

namespace ProxyDial
open Text

namespace UrlHost

variable {text : List Char}

/-- A host name of small letters. -/
structure IsLetters (text : List Char) : Prop where
  filled : text ≠ []
  lower : ∀ c ∈ text, c.isLower = true

section
variable {c : Char}

/-- There are twenty-six small letters. -/
theorem exists_of_isLower (lower : c.isLower = true) :
    ∃ number : Fin 26, c = Char.ofNat (97 + number.val) := by
  unfold Char.isLower at lower
  simp only [Bool.and_eq_true, decide_eq_true_eq, UInt32.le_iff_toNat_le, ge_iff_le,
    Char.reduceVal, UInt32.reduceToNat] at lower
  refine ⟨⟨c.toNat - 97, by unfold Char.toNat; omega⟩, ?_⟩
  have number : 97 + (c.toNat - 97) = c.toNat := by
    unfold Char.toNat
    omega
  rw [number, Char.ofNat_toNat]

theorem ascii_of_isLower (lower : c.isLower = true) : c.toNat < 128 := by
  obtain ⟨number, rfl⟩ := exists_of_isLower lower
  revert number
  decide

theorem toLower_of_isLower (lower : c.isLower = true) : c.toLower = c := by
  obtain ⟨number, rfl⟩ := exists_of_isLower lower
  revert number
  decide

theorem not_isForbidden_of_isLower (lower : c.isLower = true) : isForbidden c = false := by
  obtain ⟨number, rfl⟩ := exists_of_isLower lower
  revert number
  decide

theorem not_isControl_of_isLower (lower : c.isLower = true) : isControl c = false := by
  obtain ⟨number, rfl⟩ := exists_of_isLower lower
  revert number
  decide

theorem not_isForbiddenAscii_of_isLower (lower : c.isLower = true) :
    Idna.isForbiddenAscii c = false := by
  obtain ⟨number, rfl⟩ := exists_of_isLower lower
  revert number
  decide

theorem not_isDigit_of_isLower (lower : c.isLower = true) : isDigit c = false := by
  obtain ⟨number, rfl⟩ := exists_of_isLower lower
  revert number
  decide

theorem digitOf?_of_isLower (lower : c.isLower = true) : digitOf? 10 c = none := by
  obtain ⟨number, rfl⟩ := exists_of_isLower lower
  revert number
  decide

theorem isEscapeChar_of_isLower (lower : c.isLower = true) : Percent.isEscapeChar c = true := by
  obtain ⟨number, rfl⟩ := exists_of_isLower lower
  revert number
  decide

end

theorem IsLetters.not_mem (letters : IsLetters text) {mark : Char} (other : mark.isLower = false) :
    mark ∉ text := by
  intro member
  rw [letters.lower mark member] at other
  cases other

theorem ipv4Number?_eq_none (letters : IsLetters text) : ipv4Number? text = none := by
  obtain ⟨c, rest, rfl⟩ := List.exists_cons_of_ne_nil letters.filled
  have lower := letters.lower c (.head _)
  have noZero : c ≠ '0' := by
    rintro rfl
    exact absurd lower (by decide)
  unfold ipv4Number?
  split
  next radix digits read =>
    split at read
    · exact absurd (List.cons.inj ‹_›).1 noZero
    · exact absurd (List.cons.inj ‹_›).1 noZero
    · exact absurd (List.cons.inj ‹_›).1 noZero
    · cases read
      simp [List.mapM_cons, digitOf?_of_isLower lower]

theorem endsInNumber_eq_false (letters : IsLetters text) : endsInNumber text = false := by
  have one : labels text = [text] := by
    unfold labels
    rw [List.splitOn_eq_singleton (letters.not_mem (by decide))]
    simp [letters.filled]
  have noDigits : text.all isDigit = false := by
    obtain ⟨c, rest, rfl⟩ := List.exists_cons_of_ne_nil letters.filled
    rw [List.all_cons, not_isDigit_of_isLower (letters.lower c (.head _))]
    rfl
  unfold endsInNumber
  rw [one]
  simp [noDigits, ipv4Number?_eq_none letters]

/-- A text that no step of reading a host changes. -/
structure Unchanged (text : List Char) : Prop where
  filled : text ≠ []
  lower : ∀ c ∈ text, c.toLower = c
  ascii : ∀ c ∈ text, c.toNat < 128
  allowed : ∀ c ∈ text, isForbidden c = false ∧ Idna.isForbiddenAscii c = false
  shown : ∀ c ∈ text, isControl c = false
  plain : Idna.isPlain text = true

theorem Unchanged.toAscii?_eq_self (unchanged : Unchanged text) :
    Idna.toAscii? text = some text := by
  have lower : text.map Char.toLower = text := by
    rw [List.map_congr_left unchanged.lower, List.map_id']
  have ascii : text.all Idna.isAscii = true := by
    rw [List.all_eq_true]
    intro c member
    exact decide_eq_true (unchanged.ascii c member)
  have clean : text.any Idna.isForbiddenAscii = false := by
    rw [List.any_eq_false]
    intro c member
    rw [(unchanged.allowed c member).2]
    exact Bool.false_ne_true
  unfold Idna.toAscii?
  rw [lower]
  simp [ascii, unchanged.plain, clean]

theorem Unchanged.decodeBytes_eq_self (unchanged : Unchanged text) :
    Percent.decodeBytes (utf8 (String.ofList text)) = utf8 (String.ofList text) := by
  apply Percent.decodeBytes_eq_self
  rw [utf8_ofList_of_ascii unchanged.ascii]
  intro member
  obtain ⟨c, inText, percent⟩ := List.mem_map.mp member
  have small := unchanged.ascii c inText
  have isPercent : c.toNat = 0x25 := by
    have values := congrArg UInt8.toNat percent
    rw [UInt8.toNat_ofNat', Nat.mod_eq_of_lt (by omega)] at values
    exact values
  have same : c = '%' := by
    rw [← Char.ofNat_toNat c, isPercent]
  subst same
  exact absurd (unchanged.allowed '%' inText).2 (by decide)

/-- Such a text names itself. In a URL of the web it is an address if it ends in a number. -/
theorem Unchanged.ofChars?_eq (unchanged : Unchanged text) (kind : UrlKind) :
    ofChars? kind text = match kind with
      | .generic => some (.name text)
      | .web => if endsInNumber text then (ipv4? text).map .v4 else some (.name text) := by
  have first : text.head? ≠ some '[' := by
    intro opens
    exact absurd (unchanged.allowed '[' (List.mem_of_head? opens)).1 (by decide)
  cases kind with
  | generic =>
      have clean : text.any isForbidden = false := by
        rw [List.any_eq_false]
        intro c member
        rw [(unchanged.allowed c member).1]
        exact Bool.false_ne_true
      have kept : Percent.encode isControl text = text := Percent.encode_eq_self unchanged.shown
      unfold ofChars?
      split
      · exact absurd rfl unchanged.filled
      · exact absurd rfl first
      · rw [clean, kept]
        rfl
      · contradiction
  | web =>
      unfold ofChars?
      split
      · exact absurd rfl unchanged.filled
      · exact absurd rfl first
      · contradiction
      · rw [unchanged.decodeBytes_eq_self, ofUtf8?_utf8]
        simp [unchanged.toAscii?_eq_self, unchanged.filled]

theorem IsLetters.unchanged (letters : IsLetters text) : Unchanged text := by
  have plain : Idna.isPlain text = true := by
    unfold Idna.isPlain
    rw [List.splitOn_eq_singleton (letters.not_mem (by decide)), List.all_cons, List.all_nil,
      Bool.and_true, Bool.not_eq_true', Bool.eq_false_iff, Ne, List.isPrefixOf_iff_prefix]
    intro starts
    exact letters.not_mem (by decide) (starts.subset (by decide : '-' ∈ ['x', 'n', '-', '-']))
  exact {
    filled := letters.filled
    lower := fun c member => toLower_of_isLower (letters.lower c member)
    ascii := fun c member => ascii_of_isLower (letters.lower c member)
    allowed := fun c member => ⟨not_isForbidden_of_isLower (letters.lower c member),
      not_isForbiddenAscii_of_isLower (letters.lower c member)⟩
    shown := fun c member => not_isControl_of_isLower (letters.lower c member)
    plain := plain }

/-- A name of small letters is the same host for URLs of both kinds. -/
theorem ofChars?_of_isLetters (kind : UrlKind) (letters : IsLetters text) :
    ofChars? kind text = some (.name text) := by
  rw [letters.unchanged.ofChars?_eq, endsInNumber_eq_false letters]
  cases kind <;> rfl

end UrlHost

end ProxyDial
