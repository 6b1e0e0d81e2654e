import ProxyDial.Dns.Lookup
import ProxyDial.Proofs.Dns.Response

set_option autoImplicit false

/-! What a nameserver tells is understood: whatever else its response holds, and however the names
in it are written, its addresses are those of the answers. -/

namespace ProxyDial.Dns
open Text

theorem Response.header_length (response : Response) : response.header.length = 12 := rfl

theorem Response.read_header {response : Response} (few : response.questions.length < 65536 ∧
    response.answers.length < 65536 ∧ response.authorities.length < 65536 ∧
    response.additional.length < 65536) (rest : Bytes) :
    Header.read (response.header ++ rest) = .ok (⟨response.id.toNat, response.flags.toNat,
      response.questions.length, response.answers.length, response.authorities.length,
      response.additional.length⟩, 12) := by
  obtain ⟨questionsFew, answersFew, authoritiesFew, additionalFew⟩ := few
  have start : Behind (response.header ++ rest) 0 (response.header ++ rest) :=
    ⟨Nat.zero_le _, rfl⟩
  simp only [header, List.append_assoc] at start
  have counts := start.wide.wide
  simp only [Header.read, header, List.append_assoc, bind, Except.bind, pure, Except.pure,
    readWide_eq start, readWide_eq start.wide, readWide_eq counts, readWide_eq counts.wide,
    readWide_eq counts.wide.wide, readWide_eq counts.wide.wide.wide,
    UInt16.toNat_ofNat_of_lt' questionsFew, UInt16.toNat_ofNat_of_lt' answersFew,
    UInt16.toNat_ofNat_of_lt' authoritiesFew, UInt16.toNat_ofNat_of_lt' additionalFew]

/-- A message that tells something is read as what it tells. -/
theorem Response.read_writes {response : Response} {message : Bytes}
    (writes : response.Writes message) :
    Message.read message = .ok ⟨response.id, response.flags.toNat ≥ 0x8000, response.code,
      response.questions.map fun asked => ⟨asked.name, .ofCode asked.type⟩,
      response.answers.map Record.read⟩ := by
  obtain ⟨few, questions, answers, authorities, additional, asked, answered, referred, added,
    rfl⟩ := writes
  have header := Response.read_header few (questions ++ (answers ++ (authorities ++ additional)))
  have questionsRead := readQuestions_writes asked (answers ++ (authorities ++ additional))
  have answersRead := readRecords_writes answered (authorities ++ additional)
  have referredRead := readRecords_writes referred additional
  have addedRead := readAdditional_writes added none
  rw [response.header_length] at questionsRead
  simp only [List.append_assoc] at questionsRead answersRead referredRead addedRead ⊢
  apply Message.read_of_decode
  rw [Message.decode_eq, header]
  simp only [bind, Except.bind, pure, Except.pure, questionsRead, answersRead, referredRead,
    addedRead, UInt16.ofNat_toNat, Option.getD_none, Nat.mul_zero, Nat.zero_add, Response.code]

/-- The addresses of the message are those of the contents that hold any. -/
theorem Response.addresses_read (response : Response) (isResponse : Bool) (code : ResponseCode)
    (questions : List Question) : Message.addresses ⟨response.id, isResponse, code, questions,
      response.answers.map Record.read⟩ = response.addresses := by
  unfold Message.addresses addresses
  rw [List.filterMap_map]
  congr 1
  funext record
  obtain ⟨owner, network, lifetime, content⟩ := record
  cases content with
  | v4 ip => rfl
  | v6 ip => rfl
  | canonical target => rfl
  | data type bytes => rfl

end ProxyDial.Dns

namespace ProxyDial.ProxiedResolver
open Text Dns

/-- What a nameserver tells is understood. Under the number of the query it is the addresses of its
answers, in their order, or that there is no such name, or another failure. -/
theorem decodeAnswers_writes {response : Response} {message : Bytes}
    (writes : response.Writes message) (id : UInt16) (host : String) :
    (response.id = id → response.code = .noError →
        decodeAnswers Message.read id host message = .ok response.addresses) ∧
      (response.id ≠ id → ∃ error, decodeAnswers Message.read id host message = .error error ∧
        error.kind = .protocol) ∧
      (response.id = id → response.code ≠ .noError → ∃ error,
        decodeAnswers Message.read id host message = .error error ∧ error.kind = .resolve ∧
          (error.isNoSuchHost = true ↔ response.code = .noSuchName)) := by
  have decoded := Response.read_writes writes
  constructor
  · intro same noError
    unfold decodeAnswers
    rw [decoded]
    dsimp only
    rw [if_neg (not_not_intro same), if_pos noError, response.addresses_read]
  · constructor
    · intro other
      unfold decodeAnswers
      rw [decoded]
      dsimp only
      rw [if_pos other]
      exact ⟨_, rfl, rfl⟩
    · intro same failed
      unfold decodeAnswers
      rw [decoded]
      dsimp only
      rw [if_neg (not_not_intro same), if_neg failed]
      split
      next none => exact ⟨_, rfl, rfl, fun _ => none, fun _ => rfl⟩
      next other => exact ⟨_, rfl, rfl, nofun, fun none => absurd none other⟩

end ProxyDial.ProxiedResolver

/-! A response with an alias. Its names are pointers to the question, to the end of it, and to the
name that the alias stands for. -/

namespace ProxyDial.Dns.Sample
open Text

def internal : Bytes := [8, 0x69, 0x6e, 0x74, 0x65, 0x72, 0x6e, 0x61, 0x6c, 0]

def domain : List Bytes := [[0x69, 0x6e, 0x74, 0x65, 0x72, 0x6e, 0x61, 0x6c]]

def name : Name := ⟨[0x64, 0x62] :: domain⟩

def target : Name := ⟨[0x64, 0x62, 0x31] :: domain⟩

def aliased : Record := ⟨name, 1, 60, .canonical target⟩

def v4 : Record := ⟨target, 1, 60, .v4 ⟨10, 0, 0, 5⟩⟩

def v6 : Record := ⟨target, 1, 60, .v6 ⟨#v[0xfd00, 0, 0, 0, 0, 0, 0, 5]⟩⟩

/-- Data of a private type. -/
def note : Record := ⟨⟨domain⟩, 1, 60, .data 0xff00 [1, 2, 3]⟩

def server : Record := ⟨.root, 1, 60, .v4 ⟨10, 0, 0, 53⟩⟩

def response : Response :=
  ⟨0x1234, 0x8180, [⟨name, 1, 1⟩], [aliased, v4, v6], [note], [server]⟩

def question : Bytes := 2 :: ([0x64, 0x62] ++ internal) ++ (wide 1 ++ wide 1)

def aliasedPart : Bytes := recordHead [0xc0, 12] aliased 6 ++ [3, 0x64, 0x62, 0x31, 0xc0, 15]

def v4Part : Bytes := recordHead [0xc0, 41] v4 4 ++ [10, 0, 0, 5]

def v6Part : Bytes := recordHead [0xc0, 41] v6 16 ++ Ipv6.octets ⟨#v[0xfd00, 0, 0, 0, 0, 0, 0, 5]⟩

def notePart : Bytes := recordHead [0xc0, 15] note 3 ++ [1, 2, 3]

def serverPart : Bytes := recordHead [0] server 4 ++ [10, 0, 0, 53]

def message : Bytes :=
  response.header ++ (question ++ []) ++ (aliasedPart ++ (v4Part ++ (v6Part ++ []))) ++
    (notePart ++ []) ++ (serverPart ++ [])

theorem domain_writes (before : Bytes) : WritesLabels before domain internal :=
  .label (by decide) (by decide) .root

theorem name_writes (before : Bytes) :
    WritesLabels before name.labels (2 :: ([0x64, 0x62] ++ internal)) :=
  .label (by decide) (by decide) (domain_writes before)

variable {before : Bytes}

/-- The end of the question, wherever it is behind. -/
theorem domain_points (long : 15 ≤ before.length) (there : (before.drop 15).take 10 = internal) :
    WritesLabels before domain [0xc0, 15] := by
  apply WritesLabels.pointer_at 15 10 (by decide) long
  rw [there]
  exact domain_writes _

theorem target_points (long : 41 ≤ before.length)
    (there : (before.drop 41).take 6 = [3, 0x64, 0x62, 0x31, 0xc0, 15])
    (early : ((before.take 41).drop 15).take 10 = internal) :
    WritesName before target [0xc0, 41] where
  labels := by
    apply WritesLabels.pointer_at 41 6 (by decide) long
    rw [there]
    have short : 15 ≤ (before.take 41).length := by
      rw [List.length_take]
      omega
    exact .label (by decide) (by decide) (domain_points short early)
  fits := by decide

theorem aliased_writes :
    WritesRecord (response.header ++ (question ++ [])) aliased aliasedPart := by
  have owner : WritesName (response.header ++ (question ++ [])) name [0xc0, 12] :=
    ⟨.pointer_at 12 13 (by decide) (by decide) (name_writes _), by decide⟩
  have content : WritesLabels (response.header ++ (question ++ []) ++
      recordHead [0xc0, 12] aliased 6) target.labels [3, 0x64, 0x62, 0x31, 0xc0, 15] :=
    .label (by decide) (by decide) (domain_points (by decide) (by decide))
  exact .of_size owner rfl (by decide) (.canonical ⟨content, by decide⟩)

theorem answers_write : WritesAll WritesRecord (response.header ++ (question ++ []))
    response.answers (aliasedPart ++ (v4Part ++ (v6Part ++ []))) := by
  have first : WritesName (response.header ++ (question ++ []) ++ aliasedPart) target [0xc0, 41] :=
    target_points (by decide) (by decide) (by decide)
  have second : WritesName (response.header ++ (question ++ []) ++ aliasedPart ++ v4Part) target
      [0xc0, 41] :=
    target_points (by decide) (by decide) (by decide)
  exact .cons aliased_writes (.cons (.of_size first rfl (by decide) (.v4 _))
    (.cons (.of_size second rfl (by decide) (.v6 _)) .nil))

theorem writes : response.Writes message where
  few := by decide
  parts := by
    have domain : WritesLabels (response.header ++ (question ++ []) ++
        (aliasedPart ++ (v4Part ++ (v6Part ++ [])))) domain [0xc0, 15] :=
      domain_points (by decide) (by decide)
    exact ⟨_, _, _, _, .cons (.parts ⟨name_writes _, by decide⟩) .nil, answers_write,
      .cons (.of_size ⟨domain, by decide⟩ rfl (by decide) (.data (by decide) _)) .nil,
      .cons (.of_size ⟨.root, by decide⟩ rfl (by decide) (.v4 _)) .nil, rfl⟩

/-- Two addresses are found behind an alias; under another number there is none. -/
theorem response_is_understood :
    response.Writes message ∧ message.length = 121 ∧
      ProxiedResolver.decodeAnswers Message.read 0x1234 "db.internal" message =
        .ok [.v4 ⟨10, 0, 0, 5⟩, .v6 ⟨#v[0xfd00, 0, 0, 0, 0, 0, 0, 5]⟩] ∧
      ∃ error, ProxiedResolver.decodeAnswers Message.read 7 "db.internal" message = .error error ∧
        error.kind = .protocol := by
  have sameNumber := (ProxiedResolver.decodeAnswers_writes writes 0x1234 "db.internal").1 rfl rfl
  have otherNumber := (ProxiedResolver.decodeAnswers_writes writes 7 "db.internal").2.1 (by decide)
  exact ⟨writes, by decide, sameNumber, otherNumber⟩

end ProxyDial.Dns.Sample
