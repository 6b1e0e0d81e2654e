import ProxyDial.Proofs.Address.Ipv4
import ProxyDial.Proofs.Address.Octets
import ProxyDial.Proofs.Text.Hex

set_option autoImplicit false

/-! The written form of an IPv6 address reads back. Groups are read up to the end of the text or to
two colons, and the groups that two colons stand for are zero. -/

namespace ProxyDial
open Text

namespace Ipv6

variable {rest : List Char} {first : Bool} {room : Nat}

theorem isHexDigit_of_mem_groupChars {group : UInt16} {c : Char} (member : c ∈ groupChars group) :
    isHexDigit c = true := by
  obtain ⟨value, found⟩ := exists_value_of_mem_toDigits member
  unfold isHexDigit
  rw [found]
  rfl

theorem groupChars_length (group : UInt16) :
    1 ≤ (groupChars group).length ∧ (groupChars group).length ≤ 4 := by
  constructor
  · exact Nat.length_toDigits_pos
  · exact (Nat.length_toDigits_le_iff (by decide) (by decide)).mpr group.toNat_lt

theorem readGroup?_groupChars (group : UInt16) (stops : Stops isHexDigit rest) :
    readGroup? (groupChars group ++ rest) = some (group, rest) := by
  have hex : ∀ c ∈ groupChars group, isHexDigit c = true :=
    fun c member => isHexDigit_of_mem_groupChars member
  obtain ⟨taken, dropped⟩ := span_of_stops hex stops
  obtain ⟨filled, short⟩ := groupChars_length group
  have value : (groupChars group).foldl
      (fun value c => 16 * value + (hexDigitValue? c).getD 0) 0 = group.toNat :=
    hexValue_toDigits group.toNat
  unfold readGroup?
  simp only [taken, dropped, value]
  rw [if_pos (by simp [filled, short])]
  simp

/-- The text is at its end or goes on with a colon. -/
def AtColon (rest : List Char) : Prop := ∀ c, rest.head? = some c → c = ':'

theorem AtColon.stops {p : Char → Bool} (atColon : AtColon rest) (other : p ':' = false) :
    Stops p rest := by
  intro c starts
  rw [atColon c starts]
  exact other

theorem AtColon.cons (rest : List Char) : AtColon (':' :: rest) := by
  intro c starts
  cases starts
  rfl

/-- No IPv4 address starts with a group that a colon or nothing follows. -/
theorem ipv4_none_of_hex {digits : List Char} (hex : ∀ c ∈ digits, isHexDigit c = true)
    (atColon : AtColon rest) : Ipv4.read? (digits ++ rest) = none := by
  apply Ipv4.read?_eq_none
  intro dot
  rw [List.dropWhile_append] at dot
  split at dot
  · have kept := (span_of_stops (List.forall_mem_nil _) (atColon.stops (p := isDigit) rfl)).2
    rw [List.nil_append] at kept
    rw [kept] at dot
    exact absurd (atColon '.' dot) (by decide)
  next left =>
    cases kept : digits.dropWhile isDigit with
    | nil =>
        rw [kept] at left
        exact left rfl
    | cons c more =>
        have member : c ∈ digits := (List.dropWhile_suffix isDigit).subset (by simp [kept])
        rw [kept] at dot
        cases dot
        exact absurd (hex '.' member) (by decide)

/-- Nothing is read at a colon. -/
theorem none_at_colon (atColon : AtColon rest) :
    Ipv4.read? rest = none ∧ readGroup? rest = none := by
  constructor
  · exact ipv4_none_of_hex (List.forall_mem_nil _) atColon
  · have taken := (span_of_stops (List.forall_mem_nil _) (atColon.stops (p := isHexDigit) rfl)).1
    rw [List.nil_append] at taken
    unfold readGroup?
    rw [taken]
    rfl

/-- What follows groups: nothing, or two colons. -/
inductive Ends : List Char → Prop
  | nothing : Ends []
  | colons (more : List Char) : Ends (':' :: ':' :: more)

theorem Ends.atColon (ends : Ends rest) : AtColon rest := by
  cases ends with
  | nothing => exact nofun
  | colons more => exact .cons _

theorem readGroups_ends (first : Bool) (room : Nat) (ends : Ends rest) :
    readGroups first room rest = ⟨[], false, rest⟩ := by
  cases room with
  | zero => rfl
  | succ room =>
      have none : (skipColon? first rest).bind Ipv4.read? = none ∧
          (skipColon? first rest).bind readGroup? = none := by
        cases first with
        | true => exact none_at_colon ends.atColon
        | false =>
            cases ends with
            | nothing => exact ⟨rfl, rfl⟩
            | colons more => exact none_at_colon (.cons more)
      unfold readGroups
      rw [none.1, none.2, ite_self]

/-- Groups as they are written, with a colon in front of each but the first of an address. -/
def writtenGroups (first : Bool) : List UInt16 → List Char
  | [] => []
  | group :: groups =>
      (if first then [] else [':']) ++ (groupChars group ++ writtenGroups false groups)

theorem joinGroups_eq (groups : List UInt16) : joinGroups groups = writtenGroups true groups := by
  have behind (group : UInt16) (groups : List UInt16) :
      joinGroups (group :: groups) = groupChars group ++ writtenGroups false groups := by
    induction groups generalizing group with
    | nil => simp [joinGroups, writtenGroups]
    | cons next groups ih =>
        have step : joinGroups (group :: next :: groups) =
            groupChars group ++ ([':'] ++ joinGroups (next :: groups)) := by
          simp [joinGroups, List.intercalate]
        rw [step, ih next, writtenGroups]
        rfl
  cases groups with
  | nil => rfl
  | cons group groups =>
      rw [behind]
      rfl

/-- One group is read behind the colon in front of it. -/
theorem readGroups_next (group : UInt16) (atColon : AtColon rest) :
    readGroups first (room + 1)
        ((if first then [] else [':']) ++ (groupChars group ++ rest)) =
      { readGroups false room rest with
        groups := group :: (readGroups false room rest).groups } := by
  have skipped : skipColon? first ((if first then [] else [':']) ++ (groupChars group ++ rest)) =
      some (groupChars group ++ rest) := by
    cases first with
    | true => rfl
    | false => rfl
  have hex : ∀ c ∈ groupChars group, isHexDigit c = true :=
    fun c member => isHexDigit_of_mem_groupChars member
  conv => lhs; unfold readGroups
  rw [skipped, Option.bind_some, Option.bind_some, ipv4_none_of_hex hex atColon, ite_self,
    readGroup?_groupChars group (atColon.stops rfl)]

theorem readGroups_writtenGroups {groups : List UInt16} (fits : groups.length ≤ room)
    (ends : Ends rest) :
    readGroups first room (writtenGroups first groups ++ rest) = ⟨groups, false, rest⟩ := by
  induction groups generalizing first room with
  | nil => exact readGroups_ends first room ends
  | cons group groups ih =>
      cases room with
      | zero => cases fits
      | succ room =>
          have atColon : AtColon (writtenGroups false groups ++ rest) := by
            cases groups with
            | nil => exact ends.atColon
            | cons next groups => exact .cons _
          rw [writtenGroups, List.append_assoc, List.append_assoc, readGroups_next group atColon,
            ih (Nat.le_of_succ_le_succ fits)]

/-- Up to its length, the run that is found holds zeros. -/
theorem longestZeros_le (groups : List UInt16) :
    (longestZeros groups).2 ≤ zeros (groups.drop (longestZeros groups).1) := by
  have search (starts : List Nat) (best : Nat × Nat) (found : best.2 ≤ zeros (groups.drop best.1)) :
      let last := starts.foldl (fun best start =>
        let length := zeros (groups.drop start)
        if length > best.2 then (start, length) else best) best
      last.2 ≤ zeros (groups.drop last.1) := by
    induction starts generalizing best with
    | nil => exact found
    | cons start starts ih =>
        apply ih
        dsimp only
        split
        · exact Nat.le_refl _
        · exact found
  exact search (List.range 8) (0, 0) (Nat.zero_le _)

theorem split_zeros {groups : List UInt16} {length : Nat} (run : length ≤ zeros groups) :
    groups = List.replicate length 0 ++ groups.drop length := by
  induction groups generalizing length with
  | nil =>
      have none : length = 0 := by simpa [zeros] using run
      rw [none]
      rfl
  | cons group groups ih =>
      cases length with
      | zero => rfl
      | succ length =>
          by_cases zero : group = 0
          · subst zero
            have shorter : length ≤ zeros groups := by simpa [zeros] using run
            rw [List.replicate_succ, List.cons_append, List.drop_succ_cons, ← ih shorter]
          · simp [zeros, zero] at run

theorem toList_length (address : Ipv6) : address.toList.length = 8 := by simp [toList]

/-- Groups on both sides of two colons are read with zeros between them. -/
theorem ofChars?_of_gap {text : List Char} {front back : List UInt16} {dotted : Bool}
    (readFront : readGroups true 8 text = ⟨front, false, ':' :: ':' :: rest⟩)
    (readBack : readGroups true (7 - front.length) rest = ⟨back, dotted, []⟩)
    (room : front.length < 8) : ofChars? text = some (ofList
      (front ++ List.replicate (8 - front.length - back.length) 0 ++ back)) := by
  unfold ofChars?
  simp only [readFront, readBack, if_neg (Nat.ne_of_lt room), Bool.false_eq_true, if_false, if_true]

theorem ofChars?_around_zeros {front back : List UInt16} (room : front.length + back.length < 8) :
    ofChars? (joinGroups front ++ [':', ':'] ++ joinGroups back) = some (ofList
      (front ++ List.replicate (8 - front.length - back.length) 0 ++ back)) := by
  have readFront : readGroups true 8 (joinGroups front ++ [':', ':'] ++ joinGroups back) =
      ⟨front, false, ':' :: ':' :: joinGroups back⟩ := by
    rw [joinGroups_eq front, List.append_assoc]
    exact readGroups_writtenGroups (by omega) (.colons _)
  have readBack : readGroups true (7 - front.length) (joinGroups back) = ⟨back, false, []⟩ := by
    have groups : readGroups true (7 - front.length) (writtenGroups true back ++ []) =
        ⟨back, false, []⟩ := readGroups_writtenGroups (by omega) .nothing
    rw [joinGroups_eq, ← groups, List.append_nil]
  exact ofChars?_of_gap readFront readBack (by omega)

theorem ofChars?_joinGroups (address : Ipv6) :
    ofChars? (joinGroups address.toList) = some address := by
  have read : readGroups true 8 (joinGroups address.toList) = ⟨address.toList, false, []⟩ := by
    have groups : readGroups true 8 (writtenGroups true address.toList ++ []) =
        ⟨address.toList, false, []⟩ :=
      readGroups_writtenGroups (Nat.le_of_eq address.toList_length) .nothing
    rw [joinGroups_eq, ← groups, List.append_nil]
  unfold ofChars?
  simp only [read, address.toList_length, if_true, ofList_toList]

theorem ofChars?_compressed (address : Ipv6) : ofChars? address.compressed = some address := by
  have size := address.toList_length
  -- That the run is the longest one does not matter, only that it holds nothing but zeros.
  have run := longestZeros_le address.toList
  unfold compressed
  dsimp only
  generalize longestZeros address.toList = found at run
  obtain ⟨start, length⟩ := found
  dsimp only at run ⊢
  split
  · exact address.ofChars?_joinGroups
  next two =>
    have fits : length ≤ 8 - start := by
      have shorter := (List.takeWhile_prefix (l := address.toList.drop start) (· = 0)).length_le
      rw [List.length_drop, size] at shorter
      exact Nat.le_trans run shorter
    have frontSize : (address.toList.take start).length = start := by
      rw [List.length_take]
      omega
    have backSize : (address.toList.drop (start + length)).length = 8 - (start + length) := by
      rw [List.length_drop, size]
    have gap : 8 - start - (8 - (start + length)) = length := by omega
    have whole : address.toList.take start ++ List.replicate length 0 ++
        address.toList.drop (start + length) = address.toList := by
      rw [List.append_assoc, ← List.drop_drop, ← split_zeros run, List.take_append_drop]
    rw [ofChars?_around_zeros (by omega), frontSize, backSize, gap, whole, ofList_toList]

theorem eq_of_mapped? {address : Ipv6} {inner : Ipv4} (mapped : address.mapped? = some inner) :
    ∃ high low : UInt16, address.toList = [0, 0, 0, 0, 0, 0xffff, high, low] ∧
      inner.toNat = high.toNat * 65536 + low.toNat := by
  unfold mapped? at mapped
  split at mapped
  next high low groups =>
    cases mapped
    have highSmall := high.toNat_lt
    have lowSmall := low.toNat_lt
    exact ⟨high, low, groups, Ipv4.toNat_ofNat (by omega)⟩
  · cases mapped

/-- An IPv4 address takes the place of two groups. -/
theorem readGroups_dotted (inner : Ipv4) :
    readGroups false (room + 2) (':' :: inner.toChars) =
      ⟨[UInt16.ofNat (inner.toNat / 65536), UInt16.ofNat inner.toNat], true, []⟩ := by
  have read := inner.read?_toChars Stops.nil
  rw [List.append_nil] at read
  have skipped : skipColon? false (':' :: inner.toChars) = some inner.toChars := rfl
  unfold readGroups
  rw [if_neg (Nat.succ_ne_zero room), skipped, Option.bind_some, read]

theorem ofChars?_mapped {address : Ipv6} {inner : Ipv4} (mapped : address.mapped? = some inner) :
    ofChars? ("::ffff:".toList ++ inner.toChars) = some address := by
  obtain ⟨high, low, groups, value⟩ := eq_of_mapped? mapped
  have front : readGroups true 8 ("::ffff:".toList ++ inner.toChars) =
      ⟨[], false, ':' :: ':' :: ("ffff:".toList ++ inner.toChars)⟩ :=
    readGroups_ends true 8 (.colons _)
  have back : readGroups true 7 ("ffff:".toList ++ inner.toChars) =
      ⟨[0xffff, UInt16.ofNat (inner.toNat / 65536), UInt16.ofNat inner.toNat], true, []⟩ := by
    have digits : groupChars 0xffff = "ffff".toList := by decide +kernel
    have next : readGroups true 7 ([] ++ (groupChars 0xffff ++ ':' :: inner.toChars)) = _ :=
      readGroups_next 0xffff (.cons inner.toChars)
    rw [readGroups_dotted, digits] at next
    exact next
  have highBack : UInt16.ofNat (inner.toNat / 65536) = high := by
    have lowSmall := low.toNat_lt
    have quotient : inner.toNat / 65536 = high.toNat := by omega
    rw [quotient, UInt16.ofNat_toNat]
  have lowBack : UInt16.ofNat inner.toNat = low := by
    apply UInt16.toNat_inj.mp
    have lowSmall := low.toNat_lt
    rw [UInt16.toNat_ofNat', value]
    omega
  rw [highBack, lowBack] at back
  have list : ofList ([] ++ List.replicate 5 0 ++ [0xffff, high, low]) = address := by
    rw [← ofList_toList address, groups]
    rfl
  rw [ofChars?_of_gap front back (by decide), ← list]
  rfl

theorem ofChars?_toChars (address : Ipv6) : ofChars? address.toChars = some address := by
  unfold toChars
  split
  next mapped => exact ofChars?_mapped mapped
  next => exact address.ofChars?_compressed

end Ipv6

end ProxyDial
