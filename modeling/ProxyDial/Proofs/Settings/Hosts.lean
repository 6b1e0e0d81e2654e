import ProxyDial.Proofs.Text.Blank
import ProxyDial.Proofs.Text.Cut
import ProxyDial.Settings

set_option autoImplicit false

/-! What the setting for hosts lists. Entries stand between commas with any blanks around them, and
parts that are blank count for nothing. Settings have the hosts that are listed, all of them and in
the same order, and are refused for want of one exactly if none is listed. -/

namespace ProxyDial
open Text

namespace Settings

/-- What can be listed: something that holds no comma and neither starts nor ends with a blank. -/
structure IsEntry (entry : String) : Prop where
  filled : entry ≠ ""
  noComma : ',' ∉ entry.toList
  start : ∀ c, entry.toList.head? = some c → isBlank c = false
  stop : ∀ c, entry.toList.getLast? = some c → isBlank c = false

/-- Parts of a text that hold these entries, in the same order. Each entry has a part of its own,
with blanks around it, and all other parts are blank. -/
inductive Hold : List String → List (List Char) → Prop
  | nil : Hold [] []
  | blank {entries : List String} {parts : List (List Char)} {part : List Char}
      (blank : ∀ c ∈ part, isBlank c = true) (later : Hold entries parts) :
      Hold entries (part :: parts)
  | entry {entries : List String} {parts : List (List Char)} {entry : String}
      {front back : List Char} (isEntry : IsEntry entry)
      (blankFront : ∀ c ∈ front, isBlank c = true) (blankBack : ∀ c ∈ back, isBlank c = true)
      (later : Hold entries parts) :
      Hold (entry :: entries) ((front ++ entry.toList ++ back) :: parts)

/-- A text is made of parts that hold these entries, with commas between the parts. -/
def Lists (text : String) (entries : List String) : Prop :=
  ∃ parts, Hold entries parts ∧ text.toList = [','].intercalate parts

/-- The entries of some parts. -/
def entriesOf (parts : List (List Char)) : List String :=
  (parts.map fun part => String.ofList (trimmed part)).filter (· ≠ "")

theorem hosts_eq_entriesOf (settings : Settings) :
    settings.hosts = entriesOf ((settings.host.getD "").toList.splitOn ',') :=
  rfl

theorem entriesOf_cons_of_blank {part : List Char} (blank : ∀ c ∈ part, isBlank c = true)
    (parts : List (List Char)) : entriesOf (part :: parts) = entriesOf parts := by
  unfold entriesOf
  rw [List.map_cons, trimmed_eq_nil_iff.mpr blank]
  exact List.filter_cons_of_neg (by simp)

theorem entriesOf_cons_of_filled {part : List Char} (filled : trimmed part ≠ [])
    (parts : List (List Char)) :
    entriesOf (part :: parts) = String.ofList (trimmed part) :: entriesOf parts := by
  unfold entriesOf
  rw [List.map_cons]
  exact List.filter_cons_of_pos (by simpa using filled)

/-- The entries of parts that hold some are these. -/
theorem Hold.entriesOf_eq {entries : List String} {parts : List (List Char)}
    (holds : Hold entries parts) : entriesOf parts = entries := by
  induction holds with
  | nil => rfl
  | blank blank later ih => rw [entriesOf_cons_of_blank blank, ih]
  | @entry entries parts entry front back isEntry blankFront blankBack later ih =>
      have around : trimmed (front ++ entry.toList ++ back) = entry.toList :=
        trimmed_around blankFront blankBack isEntry.start isEntry.stop
      have filled : entry.toList ≠ [] := by simpa using isEntry.filled
      rw [entriesOf_cons_of_filled (by rw [around]; exact filled), around, String.ofList_toList, ih]

theorem Hold.no_comma {entries : List String} {parts : List (List Char)}
    (holds : Hold entries parts) : ∀ part ∈ parts, ',' ∉ part := by
  have notBlank {blanks : List Char} (blank : ∀ c ∈ blanks, isBlank c = true) : ',' ∉ blanks :=
    fun member => absurd (blank ',' member) (by decide)
  induction holds with
  | nil => exact List.forall_mem_nil _
  | blank blank later ih => exact List.forall_mem_cons.mpr ⟨notBlank blank, ih⟩
  | entry isEntry blankFront blankBack later ih =>
      refine List.forall_mem_cons.mpr ⟨?_, ih⟩
      simp [notBlank blankFront, isEntry.noComma, notBlank blankBack]

theorem isEntry_trimmed {part : List Char} (noComma : ',' ∉ part) (filled : trimmed part ≠ []) :
    IsEntry (String.ofList (trimmed part)) := by
  obtain ⟨front, back, whole, -, -⟩ := exists_blanks_around part
  have within : ',' ∉ trimmed part := by
    intro member
    apply noComma
    rw [whole]
    simp [member]
  refine ⟨by simpa using filled, ?_, ?_, ?_⟩
  · rw [String.toList_ofList]
    exact within
  · rw [String.toList_ofList]
    exact fun c first => head?_trimmed first
  · rw [String.toList_ofList]
    exact fun c last => getLast?_trimmed last

/-- Parts without commas hold the entries that are found in them. -/
theorem hold_entriesOf {parts : List (List Char)} (noComma : ∀ part ∈ parts, ',' ∉ part) :
    Hold (entriesOf parts) parts := by
  induction parts with
  | nil => exact .nil
  | cons part parts ih =>
      obtain ⟨here, later⟩ := List.forall_mem_cons.mp noComma
      by_cases blank : trimmed part = []
      · have allBlank := trimmed_eq_nil_iff.mp blank
        rw [entriesOf_cons_of_blank allBlank]
        exact .blank allBlank (ih later)
      · obtain ⟨front, back, whole, blankFront, blankBack⟩ := exists_blanks_around part
        have held := Hold.entry (isEntry_trimmed here blank) blankFront blankBack (ih later)
        rw [String.toList_ofList, ← whole] at held
        rw [entriesOf_cons_of_filled blank]
        exact held

theorem Hold.isEntry {entries : List String} {parts : List (List Char)}
    (holds : Hold entries parts) : ∀ entry ∈ entries, IsEntry entry := by
  induction holds with
  | nil => exact List.forall_mem_nil _
  | blank blank later ih => exact ih
  | entry isEntry blankFront blankBack later ih => exact List.forall_mem_cons.mpr ⟨isEntry, ih⟩

theorem hosts_eq_iff (settings : Settings) (entries : List String) :
    settings.hosts = entries ↔ Lists (settings.host.getD "") entries := by
  rw [hosts_eq_entriesOf]
  constructor
  · rintro rfl
    exact ⟨_, hold_entriesOf fun part => not_mem_of_mem_splitOn,
      (List.intercalate_splitOn ',').symm⟩
  · rintro ⟨parts, holds, whole⟩
    rw [whole]
    cases parts with
    | nil => exact holds.entriesOf_eq
    | cons part parts =>
        rw [List.splitOn_intercalate ',' holds.no_comma (List.cons_ne_nil part parts)]
        exact holds.entriesOf_eq

theorem entriesOf_eq_nil_iff {parts : List (List Char)} :
    entriesOf parts = [] ↔ ∀ part ∈ parts, ∀ c ∈ part, isBlank c = true := by
  unfold entriesOf
  simp [List.filter_eq_nil_iff, trimmed_eq_nil_iff]

/-- There is no host in a text of nothing but commas and blanks, and there is one in all others. -/
theorem hosts_eq_nil_iff (settings : Settings) :
    settings.hosts = [] ↔
      ∀ c ∈ (settings.host.getD "").toList, c = ',' ∨ isBlank c = true := by
  rw [hosts_eq_entriesOf, entriesOf_eq_nil_iff]
  have whole : [','].intercalate ((settings.host.getD "").toList.splitOn ',') =
      (settings.host.getD "").toList :=
    List.intercalate_splitOn ','
  constructor
  · intro blank c member
    by_cases comma : c = ','
    · exact .inl comma
    · rw [← whole, mem_intercalate_iff comma] at member
      obtain ⟨part, among, within⟩ := member
      exact .inr (blank part among c within)
  · intro all part among c within
    have other : c ≠ ',' := by
      rintro rfl
      exact not_mem_of_mem_splitOn among within
    have member : c ∈ (settings.host.getD "").toList := by
      rw [← whole, mem_intercalate_iff other]
      exact ⟨part, among, within⟩
    exact (all c member).resolve_left other

theorem validate_missingHost_iff (settings : Settings) :
    settings.validate = .error (.config (.missingHost hostVariable)) ↔ settings.hosts = [] := by
  rw [← List.isEmpty_iff]
  unfold validate
  constructor
  · intro refused
    by_contra listed
    rw [if_neg listed] at refused
    split at refused
    · cases refused
    · split at refused
      · cases refused
      · split at refused
        · cases refused
        · cases refused
  · exact fun none => if_pos none

/-- The hosts of settings are exactly the entries that their text lists, wherever it has blanks and
blank parts, and all of them are such as can be listed. Settings are refused for want of a host
exactly if their text lists none, which is a text of nothing but commas and blanks. -/
theorem hosts_are_listed (settings : Settings) :
    (∀ entries, settings.hosts = entries ↔ Lists (settings.host.getD "") entries) ∧
    (∀ entry ∈ settings.hosts, IsEntry entry) ∧
    (settings.validate = .error (.config (.missingHost hostVariable)) ↔
      ∀ entries, Lists (settings.host.getD "") entries → entries = []) ∧
    (settings.validate = .error (.config (.missingHost hostVariable)) ↔
      ∀ c ∈ (settings.host.getD "").toList, c = ',' ∨ isBlank c = true) := by
  have listed := (settings.hosts_eq_iff settings.hosts).mp rfl
  refine ⟨settings.hosts_eq_iff, ?_, ?_, ?_⟩
  · obtain ⟨parts, holds, -⟩ := listed
    exact holds.isEntry
  · rw [validate_missingHost_iff]
    constructor
    · intro none entries lists
      exact ((settings.hosts_eq_iff entries).mpr lists).symm.trans none
    · exact fun none => none _ listed
  · rw [validate_missingHost_iff, hosts_eq_nil_iff]

example : hosts { empty with host := some ",\u00a010.0.0.5\t, \u2003 ,db: 9042,," } =
    ["10.0.0.5", "db: 9042"] := by
  decide +kernel

end Settings

end ProxyDial
