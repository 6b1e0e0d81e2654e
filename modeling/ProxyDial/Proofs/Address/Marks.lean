import ProxyDial.Proofs.Address.Ipv6

set_option autoImplicit false

/-! The characters of IP addresses. A text that is read as an IPv4 address has no colon, and one
that is read as an IPv6 address has at least two and at most eight of them, so that no text is
both. -/

namespace ProxyDial
open Text

namespace Ipv6

variable {text rest : List Char} {first : Bool} {room : Nat} {address : Ipv6}

/-- A character that an address is written with. -/
def IsMark (c : Char) : Prop := isHexDigit c = true ∨ c = '.' ∨ c = ':'

instance (c : Char) : Decidable (IsMark c) :=
  inferInstanceAs (Decidable (isHexDigit c = true ∨ c = '.' ∨ c = ':'))

theorem isMark_of_ipv4 {c : Char} (mark : Ipv4.IsMark c) : IsMark c := by
  rcases mark with digit | dot
  · left
    unfold isDigit at digit
    simp only [Bool.and_eq_true, decide_eq_true_eq] at digit
    unfold isHexDigit hexDigitValue?
    rw [if_pos digit]
    rfl
  · exact .inr (.inl dot)

theorem exists_digits_of_readGroup? {group : UInt16}
    (read : readGroup? text = some (group, rest)) :
    ∃ digits, text = digits ++ rest ∧ ∀ c ∈ digits, isHexDigit c = true := by
  unfold readGroup? at read
  dsimp only at read
  split at read
  · cases read
    exact ⟨text.takeWhile isHexDigit, List.takeWhile_append_dropWhile.symm,
      fun c member => List.mem_takeWhile_imp member⟩
  · cases read

theorem skipColon?_eq_some (skip : skipColon? first text = some rest) :
    text = (if first then [] else [':']) ++ rest := by
  cases first with
  | true => exact Option.some.inj skip
  | false =>
      unfold skipColon? at skip
      simp only [Bool.false_eq_true, if_false] at skip
      split at skip
      · cases skip
        rfl
      · cases skip

/-- What has been taken for groups: nothing for none of them, and else one colon in front of each
but the first of an address. An IPv4 address is two groups with one colon. -/
structure Took (first : Bool) (taken : List Char) (found : Groups) : Prop where
  marks : ∀ c ∈ taken, IsMark c
  colons : (found.groups = [] ∧ found.dotted = false ∧ taken = []) ∨
    taken.count ':' + first.toNat + found.dotted.toNat = found.groups.length

theorem isMark_of_lead {c : Char} (member : c ∈ if first then [] else [':']) : IsMark c := by
  cases first with
  | true => cases member
  | false => exact .inr (.inr (List.mem_singleton.mp member))

/-- The colon in front of a group is the only one that belongs to it. -/
theorem count_lead (first : Bool) {digits : List Char} (noColon : ':' ∉ digits) :
    ((if first then [] else [':']) ++ digits).count ':' + first.toNat = 1 := by
  have none := List.count_eq_zero_of_not_mem noColon
  cases first with
  | true => simp [none]
  | false => simp [none]

theorem exists_taken_of_readGroups (first : Bool) (room : Nat) (text : List Char) :
    (readGroups first room text).groups.length ≤ room ∧ ∃ taken,
      text = taken ++ (readGroups first room text).rest ∧
        Took first taken (readGroups first room text) := by
  induction room generalizing first text with
  | zero => exact ⟨Nat.le_refl 0, [], rfl, nofun, .inl ⟨rfl, rfl, rfl⟩⟩
  | succ room ih =>
      unfold readGroups
      split
      next inner rest found =>
        split at found
        · cases found
        next more =>
          obtain ⟨behind, skipped, read⟩ := Option.bind_eq_some_iff.mp found
          obtain rfl := skipColon?_eq_some skipped
          obtain ⟨taken, rfl, -, marks⟩ := Ipv4.exists_taken_of_read? read
          have noColon : ':' ∉ taken := by
            intro member
            rcases marks ':' member with digit | dot
            · exact absurd digit (by decide)
            · exact absurd dot (by decide)
          have count := count_lead first noColon
          refine ⟨?_, _, (List.append_assoc ..).symm, ?_, .inr ?_⟩
          · simp only [List.length_cons, List.length_nil]
            omega
          · intro c member
            rcases List.mem_append.mp member with lead | inside
            · exact isMark_of_lead lead
            · exact isMark_of_ipv4 (marks c inside)
          · simp only [List.length_cons, List.length_nil, Bool.toNat_true]
            omega
      next =>
        split
        next => exact ⟨Nat.zero_le _, [], rfl, nofun, .inl ⟨rfl, rfl, rfl⟩⟩
        next group rest found =>
          obtain ⟨behind, skipped, read⟩ := Option.bind_eq_some_iff.mp found
          obtain rfl := skipColon?_eq_some skipped
          obtain ⟨digits, rfl, hex⟩ := exists_digits_of_readGroup? read
          obtain ⟨fits, taken, split, marks, colons⟩ := ih false rest
          have noColon : ':' ∉ digits := fun member => absurd (hex ':' member) (by decide)
          have count := count_lead first noColon
          refine ⟨Nat.succ_le_succ fits, (if first then [] else [':']) ++ digits ++ taken, ?_, ?_,
            .inr ?_⟩
          · rw [List.append_assoc, List.append_assoc]
            dsimp only
            rw [← split]
          · intro c member
            rcases List.mem_append.mp member with here | later
            · rcases List.mem_append.mp here with lead | inside
              · exact isMark_of_lead lead
              · exact .inl (hex c inside)
            · exact marks c later
          · rw [List.count_append]
            dsimp only
            rcases colons with ⟨none, notDotted, rfl⟩ | colons
            · rw [none, notDotted]
              simp only [List.count_nil, List.length_cons, List.length_nil, Bool.toNat_false]
              omega
            · simp only [Bool.toNat_false] at colons
              rw [List.length_cons]
              omega

/-- The characters of a text that is read as an address. -/
structure IsText (text : List Char) : Prop where
  marks : ∀ c ∈ text, IsMark c
  atLeast : 2 ≤ text.count ':'
  atMost : text.count ':' ≤ 8

theorem IsText.not_mem (isText : IsText text) {c : Char} (other : ¬ IsMark c) : c ∉ text :=
  fun member => other (isText.marks c member)

theorem IsText.colon (isText : IsText text) : ':' ∈ text := by
  have two := isText.atLeast
  exact List.count_pos_iff.mp (by omega)

/-- Wherever the text is cut at a colon, there is another colon in one of the parts. -/
theorem IsText.another_colon {front rest : List Char} (isText : IsText (front ++ ':' :: rest)) :
    ':' ∈ front ∨ ':' ∈ rest := by
  have two := isText.atLeast
  rw [List.count_append, List.count_cons_self] at two
  rcases Nat.eq_zero_or_pos (front.count ':') with none | some
  · exact .inr (List.count_pos_iff.mp (by omega))
  · exact .inl (List.count_pos_iff.mp some)

theorem isText_of_ofChars? (read : ofChars? text = some address) : IsText text := by
  unfold ofChars? at read
  dsimp only at read
  obtain ⟨fits, taken, whole, marks, colons⟩ := exists_taken_of_readGroups true 8 text
  generalize readGroups true 8 text = front at *
  split at read
  next all =>
    split at read
    next atEnd =>
      rw [atEnd, List.append_nil] at whole
      subst whole
      have dotted := Bool.toNat_le front.dotted
      rw [all, Bool.toNat_true] at colons
      have count : text.count ':' + 1 + front.dotted.toNat = 8 := by
        rcases colons with ⟨none, -, -⟩ | count
        · rw [none] at all
          cases all
        · exact count
      exact ⟨marks, by omega, by omega⟩
    · cases read
  next notAll =>
    split at read
    · cases read
    next notDotted =>
      split at read
      next rest gap =>
        obtain ⟨fitsBack, takenBack, wholeBack, marksBack, colonsBack⟩ :=
          exists_taken_of_readGroups true (7 - front.groups.length) rest
        generalize readGroups true (7 - front.groups.length) rest = back at *
        split at read
        next atEnd =>
          rw [atEnd, List.append_nil] at wholeBack
          subst wholeBack
          rw [gap] at whole
          subst whole
          rw [Bool.not_eq_true] at notDotted
          rw [notDotted, Bool.toNat_false, Bool.toNat_true] at colons
          rw [Bool.toNat_true] at colonsBack
          have count : (taken ++ ':' :: ':' :: rest).count ':' =
              taken.count ':' + (rest.count ':' + 2) := by
            rw [List.count_append, List.count_cons_self, List.count_cons_self]
          have early : taken.count ':' ≤ front.groups.length - 1 := by
            rcases colons with ⟨-, -, rfl⟩ | counted
            · exact Nat.zero_le _
            · omega
          have late : rest.count ':' ≤ back.groups.length - 1 := by
            rcases colonsBack with ⟨-, -, rfl⟩ | counted
            · exact Nat.zero_le _
            · omega
          refine ⟨?_, by omega, by omega⟩
          intro c member
          simp only [List.mem_append, List.mem_cons] at member
          rcases member with inFront | colon | colon | inBack
          · exact marks c inFront
          · exact .inr (.inr colon)
          · exact .inr (.inr colon)
          · exact marksBack c inBack
        · cases read
      · cases read

end Ipv6

namespace IpAddress

variable {text : List Char} {ip : IpAddress}

theorem ofChars?_cases (read : ofChars? text = some ip) :
    (∃ address, Ipv4.ofChars? text = some address ∧ ip = .v4 address) ∨
      ∃ address, Ipv6.ofChars? text = some address ∧ ip = .v6 address := by
  unfold ofChars? at read
  split at read
  next address found => exact .inl ⟨address, found, (Option.some.inj read).symm⟩
  next =>
    obtain ⟨address, found, same⟩ := Option.map_eq_some_iff.mp read
    exact .inr ⟨address, found, same.symm⟩

/-- The characters of a text tell which kind of address it is read as. -/
theorem marks_of_ofChars? (read : ofChars? text = some ip) :
    (∀ c ∈ text, Ipv4.IsMark c) ∨ Ipv6.IsText text := by
  rcases ofChars?_cases read with ⟨address, found, -⟩ | ⟨address, found, -⟩
  · exact .inl (Ipv4.isMark_of_ofChars? found).2
  · exact .inr (Ipv6.isText_of_ofChars? found)

/-- A text with a colon is no IPv4 address. -/
theorem ipv4_none_of_isText (isText : Ipv6.IsText text) : Ipv4.ofChars? text = none := by
  cases found : Ipv4.ofChars? text with
  | none => rfl
  | some address =>
      rcases (Ipv4.isMark_of_ofChars? found).2 ':' isText.colon with digit | dot
      · exact absurd digit (by decide)
      · exact absurd dot (by decide)

/-- The written form of an address reads back. -/
theorem ofChars?_toChars (ip : IpAddress) : ofChars? ip.toChars = some ip := by
  unfold ofChars? toChars
  cases ip with
  | v4 address =>
      dsimp only
      rw [address.ofChars?_toChars]
  | v6 address =>
      have read := address.ofChars?_toChars
      dsimp only
      rw [ipv4_none_of_isText (Ipv6.isText_of_ofChars? read), read]
      rfl

end IpAddress

end ProxyDial
