import Mathlib.Data.List.Nodup
import ProxyDial.Json.Record
import ProxyDial.Proofs.Json.Value

set_option autoImplicit false

/-! Records as they may be written. The members of an object stand in any order, with others between
them that belong to no place of the record, and a place that may be left out is left out or not. The
record is read back from every such text. -/

namespace ProxyDial.Json
open Text

/-! ### The texts of a record -/

/-- A place of a record, with the texts of its values. A place with a fallback may be left out. -/
structure Slot (σ : Type) : Type 1 where
  {Value : Type}
  name : String
  get : σ → Value
  Writes : Value → List Char → Prop
  fallback : Option Value

section
variable {σ : Type} (slots : List (Slot σ)) (record : σ)

/-- A key with its value, and the places that they fill: one, or none where the key is unknown. Any
value may stand behind such a key. -/
inductive WritesEntry : (filled : List String) → (key : String) → (text : List Char) → Prop
  | listed {slot : Slot σ} {text : List Char} (known : slot ∈ slots)
      (value : slot.Writes (slot.get record) text) : WritesEntry [slot.name] slot.name text
  | unknown {key : String} {text : List Char} (unlisted : key ∉ slots.map Slot.name)
      (value : WritesPart .value text) : WritesEntry [] key text

/-- A member with the blanks around its parts. -/
inductive WritesMember : (filled : List String) → (text : List Char) → Prop
  | spaced {filled : List String} {key : String} {before name between front text behind : List Char}
      (named : WritesString key name) (entry : WritesEntry slots record filled key text)
      (spaces : Blank before ∧ Blank between ∧ Blank front ∧ Blank behind) :
      WritesMember filled (before ++ (name ++ (between ++ ':' :: (front ++ (text ++ behind)))))

inductive WritesMembers : (filled : List String) → (text : List Char) → Prop
  | last {filled : List String} {text : List Char}
      (member : WritesMember slots record filled text) : WritesMembers filled text
  | more {filled others : List String} {text rest : List Char}
      (member : WritesMember slots record filled text) (members : WritesMembers others rest) :
      WritesMembers (filled ++ others) (text ++ ',' :: rest)

/-- The places that may be left out hold what they have when they are left out. -/
def Omits (filled : List String) : Prop :=
  ∀ slot ∈ slots, slot.name ∉ filled → slot.fallback = some (slot.get record)

/-- An object that writes the record. -/
inductive WritesObject : List Char → Prop
  | empty {blank : List Char} (spaces : Blank blank) (omitted : Omits slots record []) :
      WritesObject ('\x7b' :: (blank ++ ['\x7d']))
  | filled {names : List String} {text : List Char}
      (members : WritesMembers slots record names text) (once : names.Nodup)
      (omitted : Omits slots record names) :
      WritesObject ('\x7b' :: (text ++ ['\x7d']))

end

/-! ### Readers of values -/

/-- A reader finds the values of texts, behind blanks and in front of all that does not go on with a
number. -/
def ReadsBack {α : Type} (read : List Char → Except Stop (α × List Char))
    (Writes : α → List Char → Prop) : Prop :=
  ∀ value blank text rest, Writes value text → Blank blank → EndsNumber rest →
    read (blank ++ (text ++ rest)) = .ok (value, rest)

/-- Texts that cannot be taken for a missing value. -/
def Shows {α : Type} (Writes : α → List Char → Prop) : Prop :=
  ∀ value text, Writes value text → ∃ c more, text = c :: more ∧ isSpace c = false ∧ c ≠ 'n'

def WritesFlag : Bool → List Char → Prop
  | true, text => text = ['t', 'r', 'u', 'e']
  | false, text => text = ['f', 'a', 'l', 's', 'e']

/-- A value that is missing is written as such. -/
def WritesOptional {α : Type} (Writes : α → List Char → Prop) : Option α → List Char → Prop
  | none, text => text = ['n', 'u', 'l', 'l']
  | some value, text => Writes value text

theorem readText_writes : ReadsBack readText WritesString := by
  intro value blank text rest writes spaces _
  cases writes with
  | @quoted body chars =>
      have read := readString_writes chars rest
      unfold readText
      rw [List.cons_append, skipSpace_blank spaces rfl, List.append_assoc]
      exact read

theorem shows_string : Shows WritesString := by
  intro value text writes
  cases writes with
  | quoted chars => exact ⟨'"', _, rfl, rfl, by decide⟩

theorem readFlag_writes : ReadsBack readFlag WritesFlag := by
  intro value blank text rest writes spaces _
  unfold readFlag
  cases value with
  | true =>
      cases writes
      rw [List.cons_append, skipSpace_blank spaces rfl]
      rfl
  | false =>
      cases writes
      rw [List.cons_append, skipSpace_blank spaces rfl]
      rfl

theorem isSpace_of_isDigit {c : Char} (digit : c.isDigit = true) : isSpace c = false :=
  isSpace_valueStarts (List.mem_append_left _ (mem_scalarStarts_of_isDigit digit))

theorem shows_natural : Shows WritesNatural := by
  intro value text writes
  obtain ⟨c, more, rfl, digit⟩ := writes.whole.starts
  exact ⟨c, more, rfl, isSpace_of_isDigit digit, ne_of_isDigit digit rfl⟩

theorem readNatural_writes : ReadsBack readNatural WritesNatural := by
  intro value blank text rest writes spaces ends
  have read := readNumber_natural writes ends
  obtain ⟨c, more, rfl, digit⟩ := writes.whole.starts
  have visible := isSpace_of_isDigit digit
  rw [List.cons_append] at read ⊢
  unfold readNatural
  rw [skipSpace_blank spaces visible]
  split
  next same => cases same
  next same => exact absurd (List.cons.inj same).1 (ne_of_isDigit digit rfl)
  next same =>
    cases same
    rw [if_pos ((isDigit_eq c).trans digit), read]
    rfl

theorem readOptional_writes {α : Type} {read : List Char → Except Stop (α × List Char)}
    {Writes : α → List Char → Prop} (reads : ReadsBack read Writes) (shows : Shows Writes) :
    ReadsBack (readOptional read) (WritesOptional Writes) := by
  intro value blank text rest writes spaces ends
  unfold readOptional
  cases value with
  | none =>
      cases writes
      rw [List.cons_append, skipSpace_blank spaces rfl]
      rfl
  | some value =>
      have found := reads value [] text rest writes Blank.nil ends
      obtain ⟨c, more, rfl, visible, noNull⟩ := shows value text writes
      rw [List.nil_append, List.cons_append] at found
      rw [List.cons_append, skipSpace_blank spaces visible]
      split
      next same => exact absurd (List.cons.inj same).1 noNull
      next => rw [found]; rfl

/-! ### Places and the fields that fill them -/

/-- A field stores the values of a place, and leaves all other places as they are. -/
structure Fills {σ : Type} (slots : List (Slot σ)) (field : Field σ) (slot : Slot σ) : Prop where
  name : field.name = slot.name
  reads : ∀ value blank text rest, slot.Writes value text → Blank blank → EndsNumber rest →
    ∃ store, field.read (blank ++ (text ++ rest)) = .ok (store, rest) ∧
      (∀ record, slot.get (store record) = value) ∧
        ∀ other ∈ slots, other.name ≠ slot.name → ∀ record,
          other.get (store record) = other.get record

theorem Fills.of {σ α : Type} {slots : List (Slot σ)} {name : String} {get : σ → α}
    {Writes : α → List Char → Prop} {fallback : Option α}
    {read : List Char → Except Stop (α × List Char)} {store : α → σ → σ}
    (reads : ReadsBack read Writes) (stored : ∀ value record, get (store value record) = value)
    (kept : ∀ other ∈ slots, other.name ≠ name → ∀ value record,
      other.get (store value record) = other.get record) :
    Fills slots (Field.of name read store) ⟨name, get, Writes, fallback⟩ where
  name := rfl
  reads := by
    intro value blank text rest writes spaces ends
    have found := reads value blank text rest writes spaces ends
    refine ⟨store value, ?_, stored value,
      fun other known different => kept other known different value⟩
    simp only [Field.of, found, Except.map]

/-- The places are all that a type of records has, one for each of its fields. -/
structure Describes {σ : Type} (slots : List (Slot σ)) (type : RecordType σ) : Prop where
  fields : List.Forall₂ (Fills slots) type.fields slots
  distinct : (slots.map Slot.name).Nodup
  /-- This name is noted where an unknown key has been seen. -/
  named : "" ∉ slots.map Slot.name
  /-- There is nothing in a record but its places. -/
  whole : ∀ first second, (∀ slot ∈ slots, slot.get first = slot.get second) → first = second
  fallback : ∀ slot ∈ slots, ∀ value, slot.fallback = some value → slot.get type.empty = value
  required : type.allRequired = true → ∀ slot ∈ slots, slot.fallback = none

section
variable {σ : Type} {slots : List (Slot σ)} {type : RecordType σ}

theorem find?_name {fields : List (Field σ)} {several : List (Slot σ)} {slot : Slot σ}
    (fills : List.Forall₂ (Fills slots) fields several) (distinct : (several.map Slot.name).Nodup)
    (known : slot ∈ several) :
    ∃ field, fields.find? (·.name = slot.name) = some field ∧ Fills slots field slot := by
  induction fills with
  | nil => exact absurd known List.not_mem_nil
  | @cons field first fields others filled _ ih =>
      rw [List.map_cons, List.nodup_cons] at distinct
      rcases List.mem_cons.mp known with rfl | later
      · have same : decide (field.name = slot.name) = true := decide_eq_true filled.name
        exact ⟨field, List.find?_cons_of_pos same, filled⟩
      · have different : field.name ≠ slot.name := by
          intro same
          have names := filled.name.symm.trans same
          apply distinct.1
          rw [names]
          exact List.mem_map_of_mem later
        obtain ⟨found, first, fills⟩ := ih distinct.2 later
        refine ⟨found, ?_, fills⟩
        simpa [different] using first

theorem exists_slot {fields : List (Field σ)} {several : List (Slot σ)} {field : Field σ}
    (fills : List.Forall₂ (Fills slots) fields several) (known : field ∈ fields) :
    ∃ slot ∈ several, field.name = slot.name := by
  induction fills with
  | nil => exact absurd known List.not_mem_nil
  | @cons first slot fields others filled _ ih =>
      rcases List.mem_cons.mp known with rfl | later
      · exact ⟨slot, List.mem_cons_self, filled.name⟩
      · obtain ⟨other, member, same⟩ := ih later
        exact ⟨other, List.mem_cons_of_mem slot member, same⟩

theorem Describes.find?_unlisted (describes : Describes slots type) {key : String}
    (unlisted : key ∉ slots.map Slot.name) : type.fields.find? (·.name = key) = none := by
  rw [List.find?_eq_none]
  intro field known same
  obtain ⟨slot, member, name⟩ := exists_slot describes.fields known
  apply unlisted
  rw [← of_decide_eq_true same, name]
  exact List.mem_map_of_mem member

/-! ### Reading members -/

/-- Where the reader stands: what it has seen is in the record, all else is as it was. -/
structure Progress (slots : List (Slot σ)) (target empty record : σ) (seen : List String) :
    Prop where
  stored : ∀ slot ∈ slots, slot.name ∈ seen → slot.get record = slot.get target
  left : ∀ slot ∈ slots, slot.name ∉ seen → slot.get record = slot.get empty

/-- What separates a member from the one in front of it. -/
inductive Separates : (isFirst : Bool) → List Char → Prop
  | nothing : Separates true []
  | comma {blank : List Char} (spaces : Blank blank) : Separates false (blank ++ [','])

theorem nextKey?_member {isFirst : Bool} {lead before : List Char} (leads : Separates isFirst lead)
    (spaces : Blank before) (rest : List Char) :
    RecordType.nextKey? isFirst (lead ++ (before ++ '"' :: rest)) = .ok (some rest) := by
  unfold RecordType.nextKey?
  cases leads with
  | nothing =>
      rw [List.nil_append, skipSpace_blank spaces rfl]
      rfl
  | comma front =>
      rw [List.append_assoc, List.singleton_append, skipSpace_blank front rfl]
      have quote : skipSpace (before ++ '"' :: rest) = '"' :: rest :=
        skipSpace_blank spaces rfl rest
      simp only [Bool.false_eq_true, if_false, quote]

theorem nextKey?_end {blank : List Char} (spaces : Blank blank) (isFirst : Bool)
    (rest : List Char) : RecordType.nextKey? isFirst (blank ++ '\x7d' :: rest) = .ok none := by
  unfold RecordType.nextKey?
  rw [skipSpace_blank spaces rfl]
  rfl

theorem readColon_writes {blank : List Char} (spaces : Blank blank) (rest : List Char) :
    RecordType.readColon (blank ++ ':' :: rest) = .ok rest := by
  unfold RecordType.readColon
  rw [skipSpace_blank spaces rfl]
  rfl

variable {target found : σ} {seen : List String}

theorem Describes.name_ne (describes : Describes slots type) {slot : Slot σ}
    (known : slot ∈ slots) : slot.name ≠ "" := by
  intro same
  apply describes.named
  rw [← same]
  exact List.mem_map_of_mem known

theorem Progress.unlisted (describes : Describes slots type)
    (progress : Progress slots target type.empty found seen) :
    Progress slots target type.empty found ("" :: seen) where
  stored := by
    intro slot known member
    have earlier := (List.mem_cons.mp member).resolve_left (describes.name_ne known)
    exact progress.stored slot known earlier
  left := by
    intro slot known absent
    exact progress.left slot known fun member => absent (List.mem_cons_of_mem "" member)

theorem Progress.store (describes : Describes slots type) {slot : Slot σ} {store : σ → σ}
    (known : slot ∈ slots) (stored : ∀ record, slot.get (store record) = slot.get target)
    (kept : ∀ other ∈ slots, other.name ≠ slot.name → ∀ record,
      other.get (store record) = other.get record)
    (progress : Progress slots target type.empty found seen) :
    Progress slots target type.empty (store found) (slot.name :: seen) where
  stored := by
    intro other member seenNow
    by_cases same : other.name = slot.name
    · have equal := List.inj_on_of_nodup_map describes.distinct member known same
      subst equal
      exact stored found
    · rw [kept other member same]
      exact progress.stored other member ((List.mem_cons.mp seenNow).resolve_left same)
  left := by
    intro other member absent
    have different : other.name ≠ slot.name := fun same => absent (same ▸ List.mem_cons_self)
    rw [kept other member different]
    exact progress.left other member fun earlier => absent (List.mem_cons_of_mem _ earlier)

/-- One member is read: its value is in the place that it fills, and the reader stands in front of
the blanks behind it. -/
theorem readMembers_member (describes : Describes slots type) {filled : List String}
    {text lead rest : List Char} (member : WritesMember slots target filled text)
    (leads : Separates seen.isEmpty lead)
    (fresh : ∀ slot ∈ slots, slot.name ∈ filled → slot.name ∉ seen)
    (progress : Progress slots target type.empty found seen) (ends : EndsNumber rest)
    (room : Nat) :
    ∃ mark record blank, Blank blank ∧
      (∀ slot ∈ slots, slot.name ∈ mark :: seen ↔ slot.name ∈ filled ∨ slot.name ∈ seen) ∧
        Progress slots target type.empty record (mark :: seen) ∧
          type.readMembers (room + 1) seen found (lead ++ (text ++ rest)) =
            type.readMembers room (mark :: seen) record (blank ++ rest) := by
  cases member with
  | @spaced key before name between front text behind named entry spaces =>
      obtain ⟨first, second, third, last⟩ := spaces
      cases named with
      | @quoted body chars =>
          have next := nextKey?_member leads first
            (body ++ '"' :: (between ++ ':' :: (front ++ (text ++ (behind ++ rest)))))
          have keyed := readString_writes chars
            (between ++ ':' :: (front ++ (text ++ (behind ++ rest))))
          have colon := readColon_writes second (front ++ (text ++ (behind ++ rest)))
          have endsBehind := EndsNumber.blank last ends
          simp only [List.append_assoc, List.cons_append, List.nil_append]
          rw [RecordType.readMembers, next]
          simp only [bind, Except.bind, keyed]
          cases entry with
          | unknown unlisted value =>
              have skipped := skipValue_writes third value endsBehind
              refine ⟨"", found, behind, last, ?_, progress.unlisted describes, ?_⟩
              · intro slot known
                simp [describes.name_ne known]
              · simp only [describes.find?_unlisted unlisted, colon, skipped]
          | @listed slot _ known value =>
              obtain ⟨field, first, fills⟩ := find?_name describes.fields describes.distinct known
              obtain ⟨store, read, stored, kept⟩ :=
                fills.reads _ front text (behind ++ rest) value third endsBehind
              have unseen : slot.name ∉ seen := fresh slot known List.mem_cons_self
              refine ⟨slot.name, store found, behind, last, ?_,
                progress.store describes known stored kept, ?_⟩
              · intro other member
                simp only [List.mem_cons, List.not_mem_nil, or_false]
              · simp only [first, if_neg unseen, colon, read]

/-- At the end of an object the record is complete. -/
theorem readMembers_end (describes : Describes slots type) {blank : List Char}
    (spaces : Blank blank) (omitted : Omits slots target seen)
    (progress : Progress slots target type.empty found seen) (room : Nat) (rest : List Char) :
    type.readMembers (room + 1) seen found (blank ++ '\x7d' :: rest) =
      .ok (target, '\x7d' :: rest) := by
  have complete : found = target := by
    apply describes.whole
    intro slot known
    by_cases present : slot.name ∈ seen
    · exact progress.stored slot known present
    · rw [progress.left slot known present]
      exact describes.fallback slot known _ (omitted slot known present)
  have nothingMissing : (type.fields.find? fun field =>
      type.allRequired && decide (field.name ∉ seen)) = none := by
    rw [List.find?_eq_none]
    intro field known missing
    rw [Bool.and_eq_true, decide_eq_true_eq] at missing
    obtain ⟨slot, member, name⟩ := exists_slot describes.fields known
    have fallback := omitted slot member (name ▸ missing.2)
    rw [describes.required missing.1 slot member] at fallback
    cases fallback
  rw [RecordType.readMembers, nextKey?_end spaces]
  simp only [bind, Except.bind, nothingMissing, pure, Except.pure, complete,
    skipSpace_blank spaces (show isSpace '\x7d' = false from rfl)]

theorem WritesMember.length_pos {filled : List String} {text : List Char}
    (member : WritesMember slots target filled text) : 0 < text.length := by
  cases member
  simp only [List.length_append, List.length_cons]
  omega

theorem readMembers_writes (describes : Describes slots type) {names : List String}
    {text lead : List Char} (members : WritesMembers slots target names text)
    (leads : Separates seen.isEmpty lead) (once : names.Nodup)
    (fresh : ∀ slot ∈ slots, slot.name ∈ names → slot.name ∉ seen)
    (omitted : Omits slots target (names ++ seen))
    (progress : Progress slots target type.empty found seen) {room : Nat}
    (enough : text.length < room) (rest : List Char) :
    type.readMembers room seen found (lead ++ (text ++ '\x7d' :: rest)) =
      .ok (target, '\x7d' :: rest) := by
  obtain ⟨room, rfl⟩ := Nat.exists_eq_succ_of_ne_zero (Nat.ne_zero_of_lt enough)
  -- The induction is on the members that are left; what has been seen grows with each of them, so
  -- that a place of a later member has not been filled before.
  induction members generalizing room seen found lead with
  | @last filled text member =>
      have ends := EndsNumber.mark (show '\x7d' ∈ _ by decide) rest
      obtain ⟨mark, record, blank, spaces, marks, further, read⟩ :=
        readMembers_member describes member leads fresh progress ends room
      have positive := member.length_pos
      obtain ⟨less, rfl⟩ := Nat.exists_eq_succ_of_ne_zero (show room ≠ 0 by omega)
      have complete : Omits slots target (mark :: seen) := by
        intro slot known absent
        rw [marks slot known] at absent
        exact omitted slot known (by rwa [List.mem_append])
      rw [read]
      exact readMembers_end describes spaces complete further less rest
  | @more filled others text behind member members ih =>
      -- The comma behind this member is what separates the next one from it.
      have ends := EndsNumber.mark (show ',' ∈ _ by decide) (behind ++ '\x7d' :: rest)
      have freshFirst : ∀ slot ∈ slots, slot.name ∈ filled → slot.name ∉ seen :=
        fun slot known member => fresh slot known (List.mem_append_left others member)
      obtain ⟨mark, record, blank, spaces, marks, further, read⟩ :=
        readMembers_member describes member leads freshFirst progress ends room
      have positive := member.length_pos
      rw [List.length_append, List.length_cons] at enough
      obtain ⟨less, rfl⟩ := Nat.exists_eq_succ_of_ne_zero (show room ≠ 0 by omega)
      obtain ⟨_, onceBehind, apart⟩ := List.nodup_append.mp once
      have freshBehind : ∀ slot ∈ slots, slot.name ∈ others → slot.name ∉ mark :: seen := by
        intro slot known member seenNow
        rcases (marks slot known).mp seenNow with before | earlier
        · exact apart _ before _ member rfl
        · exact fresh slot known (List.mem_append_right filled member) earlier
      have omittedBehind : Omits slots target (others ++ mark :: seen) := by
        intro slot known absent
        rw [List.mem_append, marks slot known] at absent
        apply omitted slot known
        simp only [List.mem_append]
        tauto
      have leadsBehind : Separates (mark :: seen).isEmpty (blank ++ [',']) := .comma spaces
      have done := ih leadsBehind onceBehind freshBehind omittedBehind further less (by omega)
      rw [List.append_assoc, List.singleton_append] at done
      rw [List.append_assoc, List.cons_append, read]
      exact done

theorem endObject_closing (rest : List Char) :
    RecordType.endObject ('\x7d' :: rest) = .ok rest := rfl

/-- However an object writes a record, it is read for that record. -/
theorem Describes.read_writes (describes : Describes slots type) :
    ReadsBack type.read (WritesObject slots) := by
  intro target blank text rest writes spaces _
  have start (record : σ) : Progress slots record type.empty type.empty [] := by
    constructor
    · intro slot known member
      cases member
    · intro slot known absent
      rfl
  unfold RecordType.read
  cases writes with
  | @empty inner front omitted =>
      have members := readMembers_end describes front omitted (start target)
        (inner ++ '\x7d' :: rest).length rest
      rw [List.cons_append, skipSpace_blank spaces rfl, List.append_assoc, List.singleton_append]
      simp only [members, RecordType.closeWith, endObject_closing, Except.map]
  | @filled names text members once omitted =>
      have enough : text.length < (text ++ '\x7d' :: rest).length + 1 := by
        rw [List.length_append]
        omega
      have complete : Omits slots target (names ++ []) := by
        rwa [List.append_nil]
      have leads : Separates ([] : List String).isEmpty [] := .nothing
      have read := readMembers_writes describes members leads once
        (fun slot known member => List.not_mem_nil) complete (start target) enough rest
      rw [List.nil_append] at read
      rw [List.cons_append, skipSpace_blank spaces rfl, List.append_assoc, List.singleton_append]
      simp only [read, RecordType.closeWith, endObject_closing, Except.map]

theorem shows_object (slots : List (Slot σ)) : Shows (WritesObject slots) := by
  intro target text writes
  cases writes with
  | empty spaces omitted => exact ⟨'\x7b', _, rfl, rfl, by decide⟩
  | filled members once omitted => exact ⟨'\x7b', _, rfl, rfl, by decide⟩

/-! ### Every record has a text -/

theorem exists_writesMembers {record : σ} {several : List (Slot σ)} (filled : several ≠ [])
    (known : ∀ slot ∈ several, slot ∈ slots)
    (written : ∀ slot ∈ several, ∃ text, slot.Writes (slot.get record) text) :
    ∃ text, WritesMembers slots record (several.map Slot.name) text := by
  have member {slot : Slot σ} (known : slot ∈ slots)
      (written : ∃ text, slot.Writes (slot.get record) text) :
      ∃ text, WritesMember slots record [slot.name] text := by
    obtain ⟨text, value⟩ := written
    obtain ⟨key, named⟩ := exists_writesString slot.name
    exact ⟨_, .spaced named (.listed known value) ⟨.nil, .nil, .nil, .nil⟩⟩
  induction several with
  | nil => exact absurd rfl filled
  | cons slot others ih =>
      obtain ⟨text, first⟩ :=
        member (known slot List.mem_cons_self) (written slot List.mem_cons_self)
      by_cases last : others = []
      · subst last
        exact ⟨text, .last first⟩
      · obtain ⟨behind, members⟩ := ih last
          (fun other later => known other (List.mem_cons_of_mem slot later))
          fun other later => written other (List.mem_cons_of_mem slot later)
        exact ⟨_, .more first members⟩

theorem Describes.exists_writesObject (describes : Describes slots type) {record : σ}
    (written : ∀ slot ∈ slots, ∃ text, slot.Writes (slot.get record) text) :
    ∃ text, WritesObject slots record text := by
  by_cases none : slots = []
  · have omitted : Omits slots record [] := by
      intro slot known
      rw [none] at known
      cases known
    exact ⟨_, .empty Blank.nil omitted⟩
  · obtain ⟨text, members⟩ := exists_writesMembers none (fun _ known => known) written
    have omitted : Omits slots record (slots.map Slot.name) :=
      fun slot known absent => absurd (List.mem_map_of_mem known) absent
    exact ⟨_, .filled members describes.distinct omitted⟩

theorem exists_writesOptional {α : Type} {Writes : α → List Char → Prop} {value : Option α}
    (written : ∀ inner, value = some inner → ∃ text, Writes inner text) :
    ∃ text, WritesOptional Writes value text := by
  cases value with
  | none => exact ⟨_, rfl⟩
  | some inner => exact written inner rfl

/-- The whole text is one object, with blanks around it. -/
theorem Describes.ofText_writes (describes : Describes slots type) {before text behind : List Char}
    (front : Blank before) (writes : WritesObject slots target text) (back : Blank behind) :
    type.ofText (String.ofList (before ++ (text ++ behind))) = .ok target := by
  have ends : EndsNumber behind := by
    rw [← List.append_nil behind]
    exact EndsNumber.blank back EndsNumber.nil
  have nothing : skipSpace behind = [] := by
    rw [← List.append_nil behind, skipSpace_append back]
    rfl
  have read := describes.read_writes target before text behind writes front ends
  unfold RecordType.ofText
  simp only [String.toList_ofList, read, nothing]

end

end ProxyDial.Json
