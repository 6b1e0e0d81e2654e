import ProxyDial.Proofs.Address.Marks

set_option autoImplicit false

/-! What stands behind the last colon of an IPv6 address: its last group, nothing where the address
ends with zeros that two colons stand for, or an IPv4 address. -/

namespace ProxyDial
open Text

namespace Ipv6

variable {address : Ipv6} {groups : List UInt16} {group : UInt16}

/-- The group that the written form of an address ends with. There is none where the groups at the
end are not written, or are written as an IPv4 address. -/
def lastGroup? (address : Ipv6) : Option UInt16 :=
  match address.mapped? with
  | some _ => none
  | none =>
      let (start, length) := longestZeros address.toList
      if length < 2 then address.toList.getLast?
      else (address.toList.drop (start + length)).getLast?

/-- What stands behind the last colon of the written form. -/
def tail (address : Ipv6) : List Char :=
  match address.mapped? with
  | some inner => inner.toChars
  | none => address.lastGroup?.elim [] groupChars

theorem writtenGroups_append (first : Bool) (groups : List UInt16) (group : UInt16)
    (more : List UInt16) : writtenGroups first (groups ++ group :: more) =
      writtenGroups first groups ++ writtenGroups (first && groups.isEmpty) (group :: more) := by
  induction groups generalizing first with
  | nil => simp [writtenGroups]
  | cons next groups ih => simp [writtenGroups, ih]

theorem joinGroups_concat (filled : groups ≠ []) (group : UInt16) :
    joinGroups (groups ++ [group]) = joinGroups groups ++ ':' :: groupChars group := by
  have others : groups.isEmpty = false := by simpa using filled
  rw [joinGroups_eq, joinGroups_eq, writtenGroups_append, others]
  simp [writtenGroups]

theorem joinGroups_singleton (group : UInt16) : joinGroups [group] = groupChars group := by
  simp [joinGroups_eq, writtenGroups]

theorem colon_not_mem_groupChars (group : UInt16) : ':' ∉ groupChars group :=
  fun member => absurd (isHexDigit_of_mem_groupChars member) (by decide)

theorem tail_cases (address : Ipv6) :
    (∃ group, address.lastGroup? = some group ∧ address.tail = groupChars group) ∨
      (∃ inner : Ipv4, address.tail = inner.toChars) ∨ address.tail = [] := by
  unfold tail
  cases address.mapped? with
  | some inner => exact .inr (.inl ⟨inner, rfl⟩)
  | none =>
      cases address.lastGroup? with
      | some group => exact .inl ⟨group, rfl, rfl⟩
      | none => exact .inr (.inr rfl)

theorem colon_not_mem_tail (address : Ipv6) : ':' ∉ address.tail := by
  rcases address.tail_cases with ⟨group, -, tail⟩ | ⟨inner, tail⟩ | tail
  · rw [tail]
    exact colon_not_mem_groupChars group
  · rw [tail]
    intro member
    exact absurd ((Ipv4.isMark_of_ofChars? inner.ofChars?_toChars).2 ':' member) (by decide)
  · rw [tail]
    exact List.not_mem_nil

theorem exists_front_of_gap (before : List Char) (groups : List UInt16) : ∃ front,
    before ++ [':', ':'] ++ joinGroups groups =
      front ++ ':' :: groups.getLast?.elim [] groupChars := by
  cases last : groups.getLast? with
  | none =>
      rw [List.getLast?_eq_none_iff.mp last]
      exact ⟨before ++ [':'], by simp [joinGroups_eq, writtenGroups]⟩
  | some group =>
      obtain ⟨others, rfl⟩ := List.getLast?_eq_some_iff.mp last
      -- In front of a group that is alone stands the second of the two colons.
      by_cases alone : others = []
      · subst alone
        exact ⟨before ++ [':'], by simp [joinGroups_singleton]⟩
      · rw [joinGroups_concat alone]
        exact ⟨before ++ [':', ':'] ++ joinGroups others, by simp⟩

theorem exists_front_of_full (full : groups.length = 8) : ∃ front,
    joinGroups groups = front ++ ':' :: groups.getLast?.elim [] groupChars := by
  cases last : groups.getLast? with
  | none =>
      rw [List.getLast?_eq_none_iff.mp last] at full
      cases full
  | some group =>
      obtain ⟨others, rfl⟩ := List.getLast?_eq_some_iff.mp last
      have filled : others ≠ [] := by
        rintro rfl
        cases full
      exact ⟨joinGroups others, joinGroups_concat filled group⟩

/-- The written form is cut at its last colon in front of the tail. -/
theorem exists_front (address : Ipv6) :
    ∃ front, address.toChars = front ++ ':' :: address.tail := by
  unfold toChars tail lastGroup?
  cases mapped : address.mapped? with
  | some inner => exact ⟨"::ffff".toList, by simp⟩
  | none =>
      unfold compressed
      dsimp only
      split
      next => exact exists_front_of_full address.toList_length
      next => exact exists_front_of_gap _ _

theorem tail_of_lastGroup? (last : address.lastGroup? = some group) :
    address.tail = groupChars group := by
  unfold tail
  cases mapped : address.mapped? with
  | some inner =>
      unfold lastGroup? at last
      rw [mapped] at last
      cases last
  | none =>
      rw [last]
      rfl

end Ipv6

end ProxyDial
