import ProxyDial.Proofs.Dns.Compressed

set_option autoImplicit false

/-! Responses as nameservers write them: a header, and the questions and records of four sections,
one behind the other. What is read of them are the addresses that the answers hold. -/

namespace ProxyDial.Dns
open Text

/-- Types of records whose data has a form of its own, and may be malformed. The data of all others
is taken as it is. -/
def typesWithForm : List UInt16 :=
  [0, 1, 2, 5, 6, 12, 13, 15, 16, 24, 28, 33, 35, 37, 41, 44, 52, 53, 61, 62, 64, 65, 250, 251, 252,
    255, 257, 65305]

/-- What a record holds that a nameserver writes. -/
inductive Content
  | v4 (ip : Ipv4)
  | v6 (ip : Ipv6)
  | canonical (target : Name)
  | data (type : UInt16) (bytes : Bytes)

namespace Content

def type : Content → UInt16
  | v4 _ => 1
  | v6 _ => 28
  | canonical _ => 5
  | data type _ => type

def address? : Content → Option IpAddress
  | v4 ip => some (.v4 ip)
  | v6 ip => some (.v6 ip)
  | canonical _ | data _ _ => none

/-- The content as it is read. -/
def read : Content → RecordData
  | v4 ip => .address (.v4 ip)
  | v6 ip => .address (.v6 ip)
  | canonical target => .name target
  | data _ bytes => .bytes bytes

end Content

/-- How the content is written behind the bytes of a message so far. -/
inductive WritesContent : (before : Bytes) → Content → (part : Bytes) → Prop
  | v4 {before : Bytes} (ip : Ipv4) : WritesContent before (.v4 ip) ip.octets
  | v6 {before : Bytes} (ip : Ipv6) : WritesContent before (.v6 ip) ip.octets
  | canonical {before part : Bytes} {target : Name} (writes : WritesName before target part) :
      WritesContent before (.canonical target) part
  | data {before : Bytes} {type : UInt16} (plain : type ∉ typesWithForm) (bytes : Bytes) :
      WritesContent before (.data type bytes) bytes

structure Record where
  owner : Name
  network : UInt16
  lifetime : UInt32
  content : Content

/-- The record as it is read. -/
def Record.read (record : Record) : ResourceRecord :=
  ⟨record.owner, .ofCode record.content.type, record.content.read⟩

/-- A number of four bytes. -/
def wideTwice (value : UInt32) : Bytes := wide (value >>> 16).toUInt16 ++ wide value.toUInt16

/-- What is written of a record in front of its content. -/
def recordHead (owner : Bytes) (record : Record) (length : Nat) : Bytes :=
  owner ++ (wide record.content.type ++ (wide record.network ++ (wideTwice record.lifetime ++
    wide (UInt16.ofNat length))))

inductive WritesRecord : (before : Bytes) → Record → (part : Bytes) → Prop
  | parts {before owner content : Bytes} {record : Record}
      (named : WritesName before record.owner owner) (short : content.length < 65536)
      (filled : WritesContent (before ++ recordHead owner record content.length) record.content
        content) :
      WritesRecord before record (recordHead owner record content.length ++ content)

theorem WritesRecord.of_size {before owner content : Bytes} {record : Record} {size : Nat}
    (named : WritesName before record.owner owner) (same : content.length = size)
    (short : size < 65536)
    (filled : WritesContent (before ++ recordHead owner record size) record.content content) :
    WritesRecord before record (recordHead owner record size ++ content) := by
  subst same
  exact .parts named short filled

structure Asked where
  name : Name
  type : UInt16
  network : UInt16

inductive WritesQuestion : (before : Bytes) → Asked → (part : Bytes) → Prop
  | parts {before name : Bytes} {asked : Asked} (named : WritesName before asked.name name) :
      WritesQuestion before asked (name ++ (wide asked.type ++ wide asked.network))

/-- Items that are written one behind the other. -/
inductive WritesAll {α : Type} (writes : Bytes → α → Bytes → Prop) :
    (before : Bytes) → List α → (part : Bytes) → Prop
  | nil {before : Bytes} : WritesAll writes before [] []
  | cons {before first rest : Bytes} {item : α} {items : List α}
      (here : writes before item first) (later : WritesAll writes (before ++ first) items rest) :
      WritesAll writes before (item :: items) (first ++ rest)

/-- What a nameserver tells. -/
structure Response where
  id : UInt16
  flags : UInt16
  questions : List Asked
  answers : List Record
  authorities : List Record
  additional : List Record

namespace Response

/-- The lowest four of the flags. -/
def code (response : Response) : ResponseCode := ⟨response.flags.toNat % 16⟩

/-- The addresses that the answers hold, in their order. -/
def addresses (response : Response) : List IpAddress :=
  response.answers.filterMap fun record => record.content.address?

def header (response : Response) : Bytes :=
  wide response.id ++ (wide response.flags ++ (wide (UInt16.ofNat response.questions.length) ++
    (wide (UInt16.ofNat response.answers.length) ++
      (wide (UInt16.ofNat response.authorities.length) ++
        wide (UInt16.ofNat response.additional.length)))))

/-- The bytes are a message that tells this. -/
structure Writes (response : Response) (message : Bytes) : Prop where
  few : response.questions.length < 65536 ∧ response.answers.length < 65536 ∧
    response.authorities.length < 65536 ∧ response.additional.length < 65536
  parts : ∃ questions answers authorities additional,
    WritesAll WritesQuestion response.header response.questions questions ∧
    WritesAll WritesRecord (response.header ++ questions) response.answers answers ∧
    WritesAll WritesRecord (response.header ++ questions ++ answers) response.authorities
      authorities ∧
    WritesAll WritesRecord (response.header ++ questions ++ answers ++ authorities)
      response.additional additional ∧
    message = response.header ++ questions ++ answers ++ authorities ++ additional

end Response

/-! Each part is read where it is written. -/

section
variable {before part : Bytes}

theorem readQuestion_writes {asked : Asked} (writes : WritesQuestion before asked part)
    (rest : Bytes) : readQuestion (before ++ (part ++ rest)) before.length =
      .ok (⟨asked.name, .ofCode asked.type⟩, (before ++ part).length) := by
  cases writes with
  | @parts name _ named =>
      have type : Behind (before ++ (name ++ (wide asked.type ++ (wide asked.network ++ rest))))
          (before.length + name.length) (wide asked.type ++ (wide asked.network ++ rest)) :=
        (behind_append before _).after
      have size : (before ++ (name ++ (wide asked.type ++ wide asked.network))).length =
          before.length + name.length + 2 + 2 := by
        rw [List.length_append, List.length_append, Nat.add_assoc, Nat.add_assoc]
        rfl
      rw [List.append_assoc, List.append_assoc, size]
      unfold readQuestion
      simp only [readName_writes named, readWide_eq type, readWide_eq type.wide, bind, Except.bind,
        pure, Except.pure, UInt16.ofNat_toNat]

/-- The types with a form of their own are those that are read in a way of their own, and more. -/
theorem plain_facts {type : UInt16} (plain : type ∉ typesWithForm) :
    RecordType.ofCode type = .other type ∧ holdsName type = false ∧
      isAdditionalOnly type = false := by
  have others : ∀ known ∈ typesWithForm, type ≠ known := fun known member same =>
    plain (same ▸ member)
  simp only [typesWithForm, List.forall_mem_cons] at others
  simp [RecordType.ofCode, holdsName, isAdditionalOnly, optionsType, others]

theorem WritesContent.isAdditionalOnly {content : Content}
    (writes : WritesContent before content part) : isAdditionalOnly content.type = false := by
  cases writes with
  | v4 ip => rfl
  | v6 ip => rfl
  | canonical written => rfl
  | data plain bytes => exact (plain_facts plain).2.2

theorem readData_writes {content : Content} (writes : WritesContent before content part)
    (rest : Bytes) : readData (.ofCode content.type) part.length (before ++ (part ++ rest))
      before.length = .ok (content.read, before.length + part.length) := by
  have here := behind_append before (part ++ rest)
  have bytes := readBytes_eq here
  cases writes with
  | v4 ip =>
      have four : readBytes 4 (before ++ (ip.octets ++ rest)) before.length =
          .ok (ip.octets, before.length + 4) := bytes
      have type : RecordType.ofCode (Content.v4 ip).type = .a := rfl
      rw [type, readData, four]
      rfl
  | v6 ip =>
      have type : RecordType.ofCode (Content.v6 ip).type = .aaaa := rfl
      rw [ip.octets_length] at bytes ⊢
      rw [type, readData, bytes]
      simp only [bind, Except.bind, pure, Except.pure, ip.ofOctets_octets, Content.read]
  | @canonical _ target written =>
      have type : RecordType.ofCode (Content.canonical target).type = .other 5 := rfl
      rw [type, readData]
      dsimp only
      rw [if_pos (by decide), readName_writes written]
      rfl
  | data plain content =>
      obtain ⟨type, noName, -⟩ := plain_facts plain
      rw [Content.type, type, readData]
      dsimp only
      rw [noName, if_neg Bool.false_ne_true, bytes]
      rfl

theorem recordHead_length (owner : Bytes) (record : Record) (length : Nat) :
    (recordHead owner record length).length = owner.length + 10 := by
  rw [recordHead, List.length_append]
  rfl

theorem Behind.length {message rest : Bytes} {index : Nat} (behind : Behind message index rest) :
    message.length - index = rest.length := by
  rw [← behind.bytes, List.length_drop]

/-- An address or a name is not written in no bytes. -/
theorem WritesContent.read_of_nil {content : Content} (writes : WritesContent before content []) :
    content.read = .bytes [] := by
  generalize none : ([] : Bytes) = part at writes
  cases writes with
  | v4 ip => cases none
  | v6 ip =>
      have size := ip.octets_length
      rw [← none] at size
      cases size
  | canonical written =>
      subst none
      cases written.labels.length_pos
  | data plain bytes =>
      subst none
      rfl

theorem readRecord_writes {record : Record} (writes : WritesRecord before record part)
    (rest : Bytes) : ∃ high, readRecord (before ++ (part ++ rest)) before.length =
      .ok ((record.read, high), (before ++ part).length) := by
  cases writes with
  | @parts owner content _ named short filled =>
      let tail := wide record.content.type ++ (wide record.network ++ (wideTwice record.lifetime ++
        (wide (UInt16.ofNat content.length) ++ (content ++ rest))))
      have message : before ++ (recordHead owner record content.length ++ content ++ rest) =
          before ++ (owner ++ tail) := by simp only [recordHead, tail, List.append_assoc]
      have split : before ++ recordHead owner record content.length ++ (content ++ rest) =
          before ++ (owner ++ tail) := by simp only [recordHead, tail, List.append_assoc]
      have place : (before ++ recordHead owner record content.length).length =
          before.length + owner.length + 2 + 2 + 4 + 2 := by
        rw [List.length_append, recordHead_length]
        omega
      have type : Behind (before ++ (owner ++ tail)) (before.length + owner.length) tail :=
        (behind_append before _).after
      have network := type.wide
      have lifetime := network.wide
      have length : Behind (before ++ (owner ++ tail)) (before.length + owner.length + 2 + 2 + 4)
          (wide (UInt16.ofNat content.length) ++ (content ++ rest)) := lifetime.after
      have count : (UInt16.ofNat content.length).toNat = content.length :=
        UInt16.toNat_ofNat_of_lt' short
      have inside : ¬ content.length > (before ++ (owner ++ tail)).length -
          (before.length + owner.length + 2 + 2 + 4 + 2) := by
        rw [length.wide.length, List.length_append]
        omega
      have data := readData_writes filled rest
      rw [split, place] at data
      have four : readBytes 4 (before ++ (owner ++ tail)) (before.length + owner.length + 2 + 2) =
          .ok (wideTwice record.lifetime, before.length + owner.length + 2 + 2 + 4) :=
        readBytes_eq lifetime
      have notOptions : ¬ (decide (record.content.type.toNat = optionsType.toNat) &&
          decide (record.owner ≠ .root)) = true := by
        have other := filled.isAdditionalOnly
        simp only [isAdditionalOnly, Bool.or_eq_false_iff, decide_eq_false_iff_not] at other
        rw [decide_eq_false fun same => other.1.1 (UInt16.toNat_inj.mp same)]
        exact Bool.false_ne_true
      have size : (before ++ (recordHead owner record content.length ++ content)).length =
          before.length + owner.length + 2 + 2 + 4 + 2 + content.length := by
        rw [← List.append_assoc, List.length_append, place]
      have read : readWide (before ++ (owner ++ tail)) (before.length + owner.length + 2 + 2 + 4) =
          .ok (content.length, before.length + owner.length + 2 + 2 + 4 + 2) := by
        rw [readWide_eq length, count]
      refine ⟨((wideTwice record.lifetime).getD 0 0).toNat, ?_⟩
      rw [message, size]
      unfold readRecord
      simp only [readName_writes named, readWide_eq type, readWide_eq network, four, read, bind,
        Except.bind, pure, Except.pure, if_neg notOptions, if_neg inside, UInt16.ofNat_toNat, data]
      split
      next empty =>
        have none := List.eq_nil_of_length_eq_zero empty
        subst none
        rw [Record.read, filled.read_of_nil]
        rfl
      next =>
        have exactly : before.length + owner.length + 2 + 2 + 4 + 2 + content.length -
            (before.length + owner.length + 2 + 2 + 4 + 2) = content.length :=
          Nat.add_sub_cancel_left _ _
        rw [if_neg (not_not_intro exactly)]
        rfl

end

/-! The sections. -/

theorem RecordType.code_ofCode (code : UInt16) : (RecordType.ofCode code).code = code := by
  unfold RecordType.ofCode
  split
  next same => exact same.symm
  · split
    next same => exact same.symm
    · rfl

theorem WritesRecord.isAdditionalOnly {before part : Bytes} {record : Record}
    (writes : WritesRecord before record part) :
    Dns.isAdditionalOnly record.read.type.code = false := by
  cases writes with
  | @parts owner content _ named short filled =>
      rw [Record.read, RecordType.code_ofCode]
      exact filled.isAdditionalOnly

section
variable {before part : Bytes}

theorem readQuestions_writes {questions : List Asked}
    (writes : WritesAll WritesQuestion before questions part) (rest : Bytes) :
    readQuestions (before ++ (part ++ rest)) questions.length before.length =
      .ok (questions.map fun asked => ⟨asked.name, .ofCode asked.type⟩,
        (before ++ part).length) := by
  induction writes with
  | nil =>
      rw [List.append_nil]
      rfl
  | @cons before first part asked questions here later ih =>
      have read := readQuestion_writes here (part ++ rest)
      rw [← List.append_assoc] at read
      rw [List.append_assoc first, ← List.append_assoc before first (part ++ rest),
        ← List.append_assoc before first part, List.length_cons, readQuestions, read]
      simp only [bind, Except.bind, pure, Except.pure, List.map_cons]
      rw [ih]

theorem readRecords_writes {records : List Record}
    (writes : WritesAll WritesRecord before records part) (rest : Bytes) :
    readRecords (before ++ (part ++ rest)) records.length before.length =
      .ok (records.map Record.read, (before ++ part).length) := by
  induction writes with
  | nil =>
      rw [List.append_nil]
      rfl
  | @cons before first part record records here later ih =>
      obtain ⟨high, read⟩ := readRecord_writes here (part ++ rest)
      have placed : ¬ isAdditionalOnly record.read.type.code = true := by
        rw [here.isAdditionalOnly]
        exact Bool.false_ne_true
      rw [← List.append_assoc] at read
      rw [List.append_assoc first, ← List.append_assoc before first (part ++ rest),
        ← List.append_assoc before first part, List.length_cons, readRecords, read]
      simp only [bind, Except.bind, pure, Except.pure, List.map_cons]
      rw [ih, if_neg placed]

/-- No record that stands here holds options of the message. -/
theorem readAdditional_writes {records : List Record}
    (writes : WritesAll WritesRecord before records part) (found : Option Nat) :
    readAdditional (before ++ part) records.length found before.length = .ok found := by
  induction writes with
  | nil => rfl
  | @cons before first part record records here later ih =>
      obtain ⟨high, read⟩ := readRecord_writes here part
      have plain := here.isAdditionalOnly
      simp only [isAdditionalOnly, Bool.or_eq_false_iff, decide_eq_false_iff_not] at plain
      rw [← List.append_assoc] at read ⊢
      rw [List.length_cons, readAdditional, read]
      simp only [bind, Except.bind]
      rw [if_neg plain.1.1]
      exact ih

end

end ProxyDial.Dns
