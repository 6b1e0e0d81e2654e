import ProxyDial.Proofs.Address.Octets
import ProxyDial.Proofs.Dns.Query

set_option autoImplicit false

/-! Queries read back. A reader goes through a message by an index; what it finds there is told by
the bytes that are still behind this index. -/

namespace ProxyDial.Dns
open Text

/-- From an index on, a message holds these bytes and no others. -/
structure Behind (message : Bytes) (index : Nat) (rest : Bytes) : Prop where
  within : index ≤ message.length
  bytes : message.drop index = rest

variable {message part rest : Bytes} {index : Nat}

theorem Behind.after (behind : Behind message index (part ++ rest)) :
    Behind message (index + part.length) rest := by
  obtain ⟨within, bytes⟩ := behind
  have lengths := congrArg List.length bytes
  rw [List.length_drop, List.length_append] at lengths
  constructor
  · omega
  · rw [← List.drop_drop, bytes, List.drop_left]

theorem Behind.wide {value : UInt16} (behind : Behind message index (Dns.wide value ++ rest)) :
    Behind message (index + 2) rest :=
  behind.after

theorem readByte_eq {byte : UInt8} (behind : Behind message index (byte :: rest)) :
    readByte message index = .ok (byte, index + 1) := by
  have found : message[index]? = some byte := by
    rw [← List.head?_drop, behind.bytes]
    rfl
  unfold readByte
  rw [found]

theorem octets_toNat (value : UInt16) :
    (value >>> 8).toUInt8.toNat * 256 + value.toUInt8.toNat = value.toNat := by
  have bound := value.toNat_lt
  simp only [UInt16.toNat_toUInt8, UInt16.toNat_shiftRight, UInt16.reduceToNat,
    Nat.shiftRight_eq_div_pow, Nat.reduceMod, Nat.reducePow]
  omega

theorem readWide_eq {value : UInt16} (behind : Behind message index (wide value ++ rest)) :
    readWide message index = .ok (value.toNat, index + 2) := by
  have low : Behind message (index + 1) (value.toUInt8 :: rest) :=
    @Behind.after message [(value >>> 8).toUInt8] _ index behind
  unfold readWide
  rw [readByte_eq behind]
  dsimp only [bind, Except.bind]
  rw [readByte_eq low]
  dsimp only
  rw [octets_toNat]
  rfl

theorem readBytes_eq (behind : Behind message index (part ++ rest)) :
    readBytes part.length message index = .ok (part, index + part.length) := by
  unfold readBytes
  rw [behind.bytes, List.take_left]
  simp

theorem RecordType.ofCode_code {type : RecordType} (family : type = .a ∨ type = .aaaa) :
    RecordType.ofCode type.code = type := by
  rcases family with rfl | rfl <;> rfl

namespace Name

theorem encode_cons (label : Bytes) (labels : List Bytes) :
    encode ⟨label :: labels⟩ = UInt8.ofNat label.length :: (label ++ encode ⟨labels⟩) := by
  simp [encode]

/-- The labels of a name as they may stand in a message. -/
structure Writable (name : Name) : Prop where
  filled : ∀ label ∈ name.labels, label ≠ []
  short : ∀ label ∈ name.labels, label.length ≤ maxLabel
  fits : name.length ≤ maxLength

theorem length_append_labels (name : Name) (labels : List Bytes) :
    name.length ≤ length ⟨name.labels ++ labels⟩ := by
  rw [← length_encode, ← length_encode, encode, encode, List.flatMap_append]
  simp only [List.length_append]
  omega

theorem labels_length_le (name : Name) : name.labels.length ≤ name.encode.length := by
  cases name with
  | mk labels =>
      induction labels with
      | nil => exact Nat.zero_le _
      | cons label labels ih =>
          rw [encode_cons]
          simp only [List.length_cons, List.length_append] at ih ⊢
          omega

end Name

section
variable {name : Name} {label : Bytes} {bound : Option Nat}

/-- The labels of a name stand in front of its bound, if it has one. -/
def InFront (bound : Option Nat) (index : Nat) : Prop := ∀ limit, bound = some limit → index < limit

theorem inFront_none (index : Nat) : InFront none index := nofun

/-- A step of the reader, where it neither meets its bound nor has read too much. -/
theorem readLabelsAt_step (steps start : Nat) (inFront : InFront bound index)
    (fits : name.length ≤ Name.maxLength) {byte : UInt8}
    (behind : Behind message index (byte :: rest)) :
    readLabelsAt message (steps + 1) start bound name index =
      if byte = 0 then .ok (name, index + 1)
      else if byte ≥ 0xc0 then do
        let (pointer, behind) ← readWide message index
        let target := pointer % 0x4000
        if target ≥ start then .error (.pointerForward index target)
        let (name, _) ← readLabelsAt message steps target (some start) name target
        return (name, behind)
      else if byte ≥ 0x40 then .error (.labelCode byte)
      else (do
        let (label, behind) ← readBytes byte.toNat message (index + 1)
        let extended : Name := ⟨name.labels ++ [label]⟩
        if extended.length > Name.maxLength then .error (.longName label.length)
        readLabelsAt message steps start bound extended behind) := by
  have small : ¬ name.length > Name.maxLength := Nat.not_lt_of_le fits
  conv => lhs; unfold readLabelsAt
  cases bound with
  | none =>
      simp only [bind, Except.bind, pure, Except.pure, if_neg small, readByte_eq behind]
  | some limit =>
      have early : ¬ limit ≤ index := Nat.not_le_of_lt (inFront limit rfl)
      simp only [bind, Except.bind, pure, Except.pure, if_neg early, if_neg small,
        readByte_eq behind]

theorem readLabelsAt_root (steps start : Nat) (inFront : InFront bound index)
    (fits : name.length ≤ Name.maxLength) (behind : Behind message index (0 :: rest)) :
    readLabelsAt message (steps + 1) start bound name index = .ok (name, index + 1) := by
  rw [readLabelsAt_step steps start inFront fits behind]
  rfl

theorem readLabelsAt_label (steps start : Nat) (inFront : InFront bound index) (filled : label ≠ [])
    (short : label.length ≤ Name.maxLabel)
    (fits : Name.length ⟨name.labels ++ [label]⟩ ≤ Name.maxLength)
    (behind : Behind message index (UInt8.ofNat label.length :: (label ++ rest))) :
    readLabelsAt message (steps + 1) start bound name index =
      readLabelsAt message steps start bound ⟨name.labels ++ [label]⟩
        (index + 1 + label.length) := by
  have shorter := name.length_append_labels [label]
  have smallExtended : ¬ Name.length ⟨name.labels ++ [label]⟩ > Name.maxLength := by omega
  have positive := List.length_pos_iff.mpr filled
  have limit : Name.maxLabel = 63 := rfl
  have length : (UInt8.ofNat label.length).toNat = label.length := by
    rw [UInt8.toNat_ofNat']
    omega
  have inside : Behind message (index + 1) (label ++ rest) :=
    @Behind.after message [UInt8.ofNat label.length] _ index behind
  have notRoot : UInt8.ofNat label.length ≠ 0 := by
    rw [Ne, ← UInt8.toNat_inj, length]
    exact Nat.ne_of_gt positive
  have noPointer : ¬ UInt8.ofNat label.length ≥ 0xc0 := by
    rw [ge_iff_le, UInt8.le_iff_toNat_le, length]
    simp only [UInt8.reduceToNat]
    omega
  have noCode : ¬ UInt8.ofNat label.length ≥ 0x40 := by
    rw [ge_iff_le, UInt8.le_iff_toNat_le, length]
    simp only [UInt8.reduceToNat]
    omega
  have read := readBytes_eq inside
  rw [← length] at read
  rw [readLabelsAt_step steps start inFront (Nat.le_trans shorter fits) behind]
  simp only [bind, Except.bind, pure, Except.pure, if_neg notRoot, if_neg noPointer, if_neg noCode,
    read, if_neg smallExtended]
  rw [length]

end

/-- The labels of a name are read one by one, behind those that have been read before. -/
theorem readLabelsAt_eq (labels : List Bytes) (filled : ∀ label ∈ labels, label ≠ [])
    (short : ∀ label ∈ labels, label.length ≤ Name.maxLabel) (start : Nat) {steps : Nat}
    (enough : labels.length < steps) {name : Name}
    (fits : Name.length ⟨name.labels ++ labels⟩ ≤ Name.maxLength)
    (behind : Behind message index (Name.encode ⟨labels⟩ ++ rest)) :
    readLabelsAt message steps start none name index =
      .ok (⟨name.labels ++ labels⟩, index + (Name.encode ⟨labels⟩).length) := by
  induction labels generalizing steps name index with
  | nil =>
      obtain ⟨steps, rfl⟩ := Nat.exists_eq_add_one_of_ne_zero (Nat.ne_of_gt enough)
      rw [List.append_nil] at fits ⊢
      exact readLabelsAt_root steps start (inFront_none index) fits behind
  | cons label labels ih =>
      obtain ⟨fewer, rfl⟩ := Nat.exists_eq_add_one_of_ne_zero (Nat.ne_zero_of_lt enough)
      have whole : name.labels ++ label :: labels = (name.labels ++ [label]) ++ labels := by simp
      rw [whole] at fits ⊢
      rw [Name.encode_cons, List.cons_append, List.append_assoc] at behind
      have first : Name.length ⟨name.labels ++ [label]⟩ ≤ Name.maxLength :=
        Nat.le_trans (Name.length_append_labels _ labels) fits
      have next : Behind message (index + (label.length + 1)) (Name.encode ⟨labels⟩ ++ rest) :=
        @Behind.after message (UInt8.ofNat label.length :: label) _ index behind
      have index' : index + 1 + label.length = index + (label.length + 1) := by omega
      rw [readLabelsAt_label fewer start (inFront_none index) (filled label List.mem_cons_self)
        (short label List.mem_cons_self) first behind, index',
        ih (fun other member => filled other (List.mem_cons_of_mem _ member))
          (fun other member => short other (List.mem_cons_of_mem _ member))
          (Nat.lt_of_succ_lt_succ enough) fits next, Name.encode_cons]
      simp only [List.length_cons, List.length_append, Except.ok.injEq, Prod.mk.injEq, true_and]
      omega

theorem readName_eq {name : Name} (writable : name.Writable)
    (behind : Behind message index (name.encode ++ rest)) :
    readName message index = .ok (name, index + name.encode.length) := by
  have lengths := congrArg List.length behind.bytes
  have count := name.labels_length_le
  rw [List.length_drop, List.length_append] at lengths
  exact readLabelsAt_eq name.labels writable.filled writable.short index (by omega)
    writable.fits behind

theorem readQuestion_eq {question : Question} (writable : question.name.Writable)
    (family : question.type = .a ∨ question.type = .aaaa)
    (behind : Behind message index
      (question.name.encode ++ (wide question.type.code ++ (wide 1 ++ rest)))) :
    readQuestion message index = .ok (question, index + question.name.encode.length + 4) := by
  have code := behind.after
  have last := code.after
  have type : UInt16.ofNat question.type.code.toNat = question.type.code := UInt16.ofNat_toNat
  unfold readQuestion
  simp only [bind, Except.bind, pure, Except.pure, readName_eq writable behind, readWide_eq code]
  have read : readWide message (index + question.name.encode.length + 2) =
      .ok (1, index + question.name.encode.length + 4) := readWide_eq last
  rw [read, type, RecordType.ofCode_code family]

/-- What the first twelve bytes of a message tell. -/
structure Header where
  id : Nat
  flags : Nat
  questions : Nat
  answers : Nat
  authorities : Nat
  additional : Nat
  deriving DecidableEq, Repr

namespace Header

/-- Whether the message is a response, and not a query. -/
def isResponse (header : Header) : Bool := header.flags / 32768 = 1

/-- The kind of query: 0 for a standard one. -/
def kind (header : Header) : Nat := header.flags / 2048 % 16

/-- Whether the server is to ask others on behalf of the client. -/
def wantsRecursion (header : Header) : Bool := header.flags / 256 % 2 = 1

def read (message : Bytes) : Except DecodeProblem (Header × Nat) := do
  let (id, index) ← readWide message 0
  let (flags, index) ← readWide message index
  let (questions, index) ← readWide message index
  let (answers, index) ← readWide message index
  let (authorities, index) ← readWide message index
  let (additional, index) ← readWide message index
  return (⟨id, flags, questions, answers, authorities, additional⟩, index)

end Header

/-- A message is read as its header says. -/
theorem Message.decode_eq (bytes : Bytes) : Message.decode bytes = do
    let (header, index) ← Header.read bytes
    let (questions, index) ← readQuestions bytes header.questions index
    let (answers, index) ← readRecords bytes header.answers index
    let (_, index) ← readRecords bytes header.authorities index
    let high ← readAdditional bytes header.additional none index
    return ⟨UInt16.ofNat header.id, header.flags ≥ 0x8000,
      ⟨16 * high.getD 0 + header.flags % 16⟩, questions, answers⟩ := by
  simp [Message.decode, Header.read]

theorem Message.read_of_decode {bytes : Bytes} {message : Message}
    (decoded : Message.decode bytes = .ok message) : Message.read bytes = .ok message := by
  unfold read
  rw [decoded]
  rfl

/-- A message asks one question: it is a standard query under a number, it wants recursion, and
nothing else is in it. -/
structure Asks (message : Bytes) (id : UInt16) (question : Question) : Prop where
  decoded : Message.decode message = .ok ⟨id, false, .noError, [question], []⟩
  header : ∃ header, Header.read message = .ok (header, 12) ∧ header.isResponse = false ∧
    header.kind = 0 ∧ header.wantsRecursion = true ∧ header.questions = 1 ∧ header.answers = 0 ∧
    header.authorities = 0 ∧ header.additional = 0
  whole : readQuestion message 12 = .ok (question, message.length)

/-- A query with its header in front, number by number. -/
theorem encodeQuery_eq (id : UInt16) (question : Question) :
    encodeQuery id question = wide id ++ (wide 0x0100 ++ (wide 1 ++ (wide 0 ++ (wide 0 ++ (wide 0 ++
      (question.name.encode ++ (wide question.type.code ++ (wide 1 ++ [])))))))) := by
  have flags : wide 0x0100 = [0x01, 0x00] := rfl
  simp [encodeQuery, flags]

theorem header_encodeQuery (id : UInt16) (question : Question) :
    Header.read (encodeQuery id question) = .ok (⟨id.toNat, 0x0100, 1, 0, 0, 0⟩, 12) := by
  have start : Behind (encodeQuery id question) 0 _ := ⟨Nat.zero_le _, encodeQuery_eq id question⟩
  have flags := start.wide
  have questions := flags.wide
  have answers := questions.wide
  have authorities := answers.wide
  have additional := authorities.wide
  simp only [Header.read, bind, Except.bind, pure, Except.pure, readWide_eq start,
    readWide_eq flags, readWide_eq questions, readWide_eq answers, readWide_eq authorities,
    readWide_eq additional]
  rfl

theorem behind_header (id : UInt16) (question : Question) :
    Behind (encodeQuery id question) 12
      (question.name.encode ++ (wide question.type.code ++ (wide 1 ++ []))) := by
  have start : Behind (encodeQuery id question) 0 _ := ⟨Nat.zero_le _, encodeQuery_eq id question⟩
  exact start.wide.wide.wide.wide.wide.wide

/-- A query is read as what it asks. -/
theorem asks_encodeQuery (id : UInt16) {question : Question} (writable : question.name.Writable)
    (family : question.type = .a ∨ question.type = .aaaa) :
    Asks (encodeQuery id question) id question := by
  have header := header_encodeQuery id question
  have asked := readQuestion_eq writable family (behind_header id question)
  have size : 12 + question.name.encode.length + 4 = (encodeQuery id question).length := by
    rw [encodeQuery_eq]
    simp only [List.length_append, wide, List.length_cons, List.length_nil]
    omega
  rw [size] at asked
  have number : UInt16.ofNat id.toNat = id := UInt16.ofNat_toNat
  constructor
  · rw [Message.decode_eq, header]
    simp only [bind, Except.bind, pure, Except.pure, readQuestions, asked, readRecords,
      readAdditional, number]
    rfl
  · refine ⟨_, header, ?_⟩
    simp [Header.isResponse, Header.kind, Header.wantsRecursion]
  · exact asked

end ProxyDial.Dns
