import ProxyDial.Proofs.Address.Octets
import ProxyDial.Proofs.Dns.Exchange

set_option autoImplicit false

/-! What is accepted as the answer to a query: a message with the number of the query that reports
no error. Its addresses are those of the records that hold any, each of the family that the record
says. Neither its question, nor the owner of a record, nor the family that was asked for matters. -/

namespace ProxyDial.Dns
open Text

/-- The record says of which family the address is that it holds. -/
inductive ResourceRecord.Gives (record : ResourceRecord) : IpAddress → Prop
  | v4 {ip : Ipv4} (type : record.type = .a) (data : record.data = .address (.v4 ip)) :
      Gives record (.v4 ip)
  | v6 {ip : Ipv6} (type : record.type = .aaaa) (data : record.data = .address (.v6 ip)) :
      Gives record (.v6 ip)

/-- An address that a record holds is of the family of its type. -/
def ResourceRecord.Typed (record : ResourceRecord) : Prop :=
  ∀ ip, record.data = .address ip → record.Gives ip

theorem readData_typed {owner : Name} {type : RecordType} {length index behind : Nat}
    {message : Bytes} {data : RecordData}
    (read : readData type length message index = .ok (data, behind)) :
    ResourceRecord.Typed ⟨owner, type, data⟩ := by
  unfold readData at read
  cases type with
  | a =>
      obtain ⟨⟨octets, next⟩, -, rest⟩ := Dial.bind_ok read
      cases rest
      intro ip same
      cases same
      exact .v4 rfl rfl
  | aaaa =>
      obtain ⟨⟨octets, next⟩, -, rest⟩ := Dial.bind_ok read
      cases rest
      intro ip same
      cases same
      exact .v6 rfl rfl
  | other code =>
      dsimp only at read
      split at read
      · obtain ⟨⟨name, next⟩, -, rest⟩ := Dial.bind_ok read
        cases rest
        exact nofun
      · obtain ⟨⟨content, next⟩, -, rest⟩ := Dial.bind_ok read
        cases rest
        exact nofun

theorem readRecord_typed {message : Bytes} {index high behind : Nat} {record : ResourceRecord}
    (read : readRecord message index = .ok ((record, high), behind)) : record.Typed := by
  unfold readRecord at read
  obtain ⟨⟨owner, _⟩, -, read⟩ := Dial.bind_ok read
  obtain ⟨⟨code, _⟩, -, read⟩ := Dial.bind_ok read
  dsimp only at read
  split at read
  · cases read
  · obtain ⟨⟨_, _⟩, -, read⟩ := Dial.bind_ok read
    obtain ⟨⟨lifetime, _⟩, -, read⟩ := Dial.bind_ok read
    obtain ⟨⟨length, start⟩, -, read⟩ := Dial.bind_ok read
    dsimp only at read
    split at read
    · cases read
    · split at read
      · cases read
        exact nofun
      · obtain ⟨⟨data, last⟩, found, read⟩ := Dial.bind_ok read
        dsimp only at read
        split at read
        · cases read
        · cases read
          exact readData_typed found

theorem readRecords_typed {message : Bytes} {count index behind : Nat}
    {records : List ResourceRecord}
    (read : readRecords message count index = .ok (records, behind)) :
    ∀ record ∈ records, record.Typed := by
  induction count generalizing index records behind with
  | zero =>
      cases read
      exact nofun
  | succ count ih =>
      unfold readRecords at read
      obtain ⟨⟨⟨record, high⟩, next⟩, first, read⟩ := Dial.bind_ok read
      dsimp only at read
      split at read
      · cases read
      · obtain ⟨⟨others, last⟩, more, read⟩ := Dial.bind_ok read
        cases read
        exact List.forall_mem_cons.mpr ⟨readRecord_typed first, ih more⟩

namespace Message

theorem decode_typed {bytes : Bytes} {message : Message} (decoded : decode bytes = .ok message) :
    ∀ record ∈ message.answers, record.Typed := by
  unfold decode at decoded
  obtain ⟨⟨id, _⟩, -, decoded⟩ := Dial.bind_ok decoded
  obtain ⟨⟨flags, _⟩, -, decoded⟩ := Dial.bind_ok decoded
  obtain ⟨⟨questionCount, _⟩, -, decoded⟩ := Dial.bind_ok decoded
  obtain ⟨⟨answerCount, _⟩, -, decoded⟩ := Dial.bind_ok decoded
  obtain ⟨⟨authorityCount, _⟩, -, decoded⟩ := Dial.bind_ok decoded
  obtain ⟨⟨additionalCount, _⟩, -, decoded⟩ := Dial.bind_ok decoded
  obtain ⟨⟨questions, _⟩, -, decoded⟩ := Dial.bind_ok decoded
  obtain ⟨⟨answers, _⟩, read, decoded⟩ := Dial.bind_ok decoded
  obtain ⟨⟨_, _⟩, -, decoded⟩ := Dial.bind_ok decoded
  obtain ⟨high, -, decoded⟩ := Dial.bind_ok decoded
  cases decoded
  exact readRecords_typed read

/-- Each record that a codec finds among the answers says of which family the address is that it
holds. -/
def TypesAnswers (codec : Bytes → Except String Message) : Prop :=
  ∀ bytes message, codec bytes = .ok message → ∀ record ∈ message.answers, record.Typed

theorem read_typesAnswers : TypesAnswers read := by
  intro bytes message found
  unfold read at found
  cases decoded : decode bytes with
  | error problem =>
      rw [decoded] at found
      cases found
  | ok whole =>
      rw [decoded] at found
      cases found
      exact decode_typed decoded

theorem mem_addresses {message : Message} {ip : IpAddress} :
    ip ∈ message.addresses ↔ ∃ record ∈ message.answers, record.data = .address ip := by
  unfold addresses
  rw [List.mem_filterMap]
  constructor
  · rintro ⟨record, member, held⟩
    refine ⟨record, member, ?_⟩
    split at held
    next address same =>
      cases held
      exact same
    next => cases held
  · rintro ⟨record, member, held⟩
    exact ⟨record, member, by rw [held]⟩

/-- The names that the aliases among some records lead to from the one that was asked for. -/
inductive LeadsTo (records : List ResourceRecord) (asked : Name) : Name → Prop
  | asked : LeadsTo records asked asked
  | onward {owner target : Name} (leads : LeadsTo records asked owner)
      (record : ⟨owner, .other 5, .name target⟩ ∈ records) : LeadsTo records asked target

theorem LeadsTo.eq_asked {records : List ResourceRecord} {asked reached : Name}
    (direct : ∀ record ∈ records, record.type ≠ .other 5)
    (leads : LeadsTo records asked reached) : reached = asked := by
  cases leads with
  | asked => rfl
  | onward _ record => exact absurd rfl (direct _ record)

end Message

theorem encodeQuery_id {id other : UInt16} {question another : Question}
    (same : encodeQuery id question = encodeQuery other another) : id = other := by
  obtain ⟨high, rest⟩ := List.cons.inj same
  obtain ⟨low, -⟩ := List.cons.inj rest
  rw [← uint16_of_octets id, ← uint16_of_octets other, high, low]

end ProxyDial.Dns

namespace ProxyDial.ProxiedResolver
open Text Dns

/-- A query for the addresses of a host has been sent, and the reply to it is accepted: a message
under the same number that reports no error. -/
inductive Accepted (codec : Bytes → Except String Message) (host : String) (type : RecordType) :
    Bytes → Bytes → Message → Prop
  | reply {name : Name} {id : UInt16} {high low : UInt8} {reply : Bytes} {message : Message}
      (encodes : Name.ofHost host = .ok name)
      (whole : reply.length = high.toNat * 256 + low.toNat)
      (decoded : codec reply = .ok message) (sameId : message.id = id)
      (done : message.code = .noError) :
      Accepted codec host type (frame (Dns.encodeQuery id ⟨name, type⟩)) (high :: low :: reply)
        message

namespace Accepted

variable {codec : Bytes → Except String Message} {host : String} {type : RecordType}
  {packets replies : Bytes} {message : Message}

theorem mem_addresses (typed : Message.TypesAnswers codec)
    (accepted : Accepted codec host type packets replies message) (ip : IpAddress) :
    ip ∈ message.addresses ↔ ∃ record ∈ message.answers, record.Gives ip := by
  rw [Message.mem_addresses]
  cases accepted with
  | reply encodes whole decoded sameId done =>
      constructor
      · rintro ⟨record, member, held⟩
        exact ⟨record, member, typed _ _ decoded record member ip held⟩
      · rintro ⟨record, member, gives⟩
        cases gives with
        | v4 type data => exact ⟨record, member, data⟩
        | v6 type data => exact ⟨record, member, data⟩

/-- What is accepted tells the addresses, and nothing else that comes of an exchange does. -/
theorem iff_found {talk : Talk} {name : Name} {id : UInt16} {behind : World} {outcome : Outcome}
    (encodes : Name.ofHost host = .ok name)
    (exchange : Exchange talk ⟨name, type⟩ id behind outcome packets replies)
    (addresses : List IpAddress) :
    outcome = .found addresses ↔
      ∃ message, Accepted talk.codec host type packets replies message ∧
        addresses = message.addresses := by
  constructor
  · intro found
    subst found
    cases exchange with
    | answered whole told =>
        cases told with
        | found read same done => exact ⟨_, .reply encodes whole read same done, rfl⟩
  · rintro ⟨message, accepted, rfl⟩
    generalize sent : packets = said at accepted
    generalize heard : replies = got at accepted
    cases accepted with
    | reply encodes' whole decoded sameId done =>
        rw [encodes] at encodes'
        cases encodes'
        cases exchange with
        | unsaid => cases heard
        | cutLength short fails =>
            subst heard
            simp only [List.length_cons] at short
            omega
        | cutReply short fails =>
            cases heard
            omega
        | answered _ told =>
            cases heard
            have sameQuery := encodeQuery_id (List.cons.inj (List.cons.inj sent).2).2
            subst sameQuery
            cases told with
            | found read same done =>
                rw [decoded] at read
                cases read
                rfl
            | malformed unread =>
                rw [decoded] at unread
                cases unread
            | mismatched read other =>
                rw [decoded] at read
                cases read
                exact absurd sameId other
            | noSuchName read same none =>
                rw [decoded] at read
                cases read
                rw [done] at none
                cases none
            | failed read same notDone notMissing =>
                rw [decoded] at read
                cases read
                exact absurd done notDone

end Accepted

/-- An exchange returns addresses exactly when the reply is accepted, and then those of the records
that hold any. -/
theorem exchange_accepts_iff {codec : Bytes → Except String Message}
    (typed : Message.TypesAnswers codec) {peer : Peer} {script : Bytes → Bytes}
    (delivers : peer.Delivers script) (host : String) (type : RecordType) (options : DialOptions)
    (connection : Connection) :
    connection.Conducts peer script codec (fun _ => True) (exchange host type options connection)
      fun result packets replies left _ => ∀ addresses next,
        result = .ok (.ok addresses, next) ↔ next = left ∧
          ∃ message, Accepted codec host type packets replies message ∧
            addresses = message.addresses ∧
            ∀ ip, ip ∈ addresses ↔ ∃ record ∈ message.answers, record.Gives ip := by
  cases encodes : Name.ofHost host with
  | ok name =>
      have conducts : connection.Conducts peer script codec (fun _ => True)
          (exchange host type options connection) _ :=
        Dial.conducts_numbered (exchange_conducts delivers encodes type connection)
      refine conducts.mono ?_
      rintro result packets replies left behind ⟨id, outcome, exchange, rfl⟩ addresses next
      have told := Accepted.iff_found encodes exchange addresses
      constructor
      · intro returned
        cases outcome with
        | found given =>
            cases returned
            obtain ⟨message, accepted, same⟩ := told.mp rfl
            refine ⟨rfl, message, accepted, same, ?_⟩
            rw [same]
            exact accepted.mem_addresses typed
        | failed code => cases returned
        | noSuchName => cases returned
        | unusable problem => cases returned
        | broken error => cases returned
      · rintro ⟨rfl, message, accepted, same, -⟩
        rw [told.mpr ⟨message, accepted, same⟩]
        rfl
  | error problem =>
      -- A host that is no name is not asked for.
      have unasked : ∀ id, encodeQuery id host type =
          .error (.config (.invalidHostName host problem.message)) := by
        intro id
        rw [encodeQuery, encodes]
      have fails (id : UInt16) : connection.Conducts peer script codec
          (fun world => world.numbers world.drawn = id) (exchange host type options connection)
          fun result _ _ _ _ => result =
            .error (.failed (.config (.invalidHostName host problem.message))) := by
        unfold exchange
        apply Dial.conducts_drawNumber
        rw [unasked]
        exact Dial.conducts_fail fun _ _ => rfl
      have conducts : connection.Conducts peer script codec (fun _ => True)
          (exchange host type options connection) _ := Dial.conducts_numbered fails
      refine conducts.mono ?_
      rintro result packets replies left behind ⟨-, rfl⟩ addresses next
      constructor
      · intro returned
        cases returned
      · rintro ⟨rfl, message, accepted, -⟩
        cases accepted with
        | reply named =>
            rw [encodes] at named
            cases named

/-- A connection to a nameserver whose next message is this one. -/
def replyWorld (reply : Bytes) : World := .linked (.ofStream (frame reply) (.closed ⟨0⟩))

def nameserverConnection : Connection := ⟨.plain (.direct ⟨0⟩), "10.0.0.53:53"⟩

def exchangeOptions : DialOptions := DialOptions.default.withDeadline ⟨30 * Duration.perSecond⟩

/-- An alias of the host in front of an address of each family. -/
def aliasReply : Bytes :=
  [0, 0, 0x81, 0x80, 0, 0, 0, 3, 0, 0, 0, 0] ++
    [2, 100, 98, 0, 0, 5, 0, 1, 0, 0, 0, 60, 0, 3, 1, 120, 0] ++
    [1, 120, 0, 0, 1, 0, 1, 0, 0, 0, 60, 0, 4, 10, 0, 0, 5] ++
    [1, 120, 0, 0, 28, 0, 1, 0, 0, 0, 60, 0, 16, 0, 0, 0, 0, 0, 0, 0, 0, 0, 0, 0, 0, 0, 0, 0, 1]

def bothFamilies : List IpAddress :=
  [.v4 ⟨10, 0, 0, 5⟩, .v6 (.ofList [0, 0, 0, 0, 0, 0, 0, 1])]

/-- Both addresses are accepted as the answer to a query for one family. -/
theorem exchange_accepts_both_families :
    Message.TypesAnswers Message.read ∧
      (Peer.ofStream (frame aliasReply) (.closed ⟨0⟩)).Delivers (fun _ => frame aliasReply) ∧
      (exchange "db" .a exchangeOptions nameserverConnection).Ensures (replyWorld aliasReply)
        fun result _ => ∃ packets replies left message, result = .ok (.ok bothFamilies, left) ∧
          Accepted Message.read "db" .a packets replies message ∧ bothFamilies = message.addresses ∧
          ∀ ip, ip ∈ bothFamilies ↔ ∃ record ∈ message.answers, record.Gives ip := by
  have delivers := (Peer.ofStream_plays (frame aliasReply)).delivers
  have returns : (exchange "db" .a exchangeOptions nameserverConnection
      (replyWorld aliasReply)).1.toOption.map (·.1) = some (.ok bothFamilies) := by
    decide +kernel
  have tunnels : nameserverConnection.Tunnels (.ofStream (frame aliasReply) (.closed ⟨0⟩))
      (fun _ => frame aliasReply) [] [] (replyWorld aliasReply) :=
    ⟨rfl, World.linked_talks _, List.nil_prefix⟩
  refine ⟨Message.read_typesAnswers, delivers, ?_⟩
  have conducts := exchange_accepts_iff Message.read_typesAnswers delivers "db" .a exchangeOptions
    nameserverConnection (replyWorld aliasReply) [] [] rfl trivial tunnels
  cases run : exchange "db" .a exchangeOptions nameserverConnection (replyWorld aliasReply) with
  | mk result behind =>
      rw [run] at returns
      apply Dial.ensures_of_eq run
      obtain ⟨packets, replies, left, accepts, -⟩ := conducts.of_run run
      cases result with
      | error abort => cases returns
      | ok answer =>
          obtain ⟨found, after⟩ := answer
          cases returns
          obtain ⟨rfl, message, accepted, same⟩ := (accepts bothFamilies after).mp rfl
          exact ⟨packets, replies, after, message, rfl, accepted, same⟩

/-- A query for another name, with an address of the other family that belongs to a third one. -/
def strayReply : Bytes :=
  [0, 0, 0x01, 0x00, 0, 1, 0, 1, 0, 0, 0, 0] ++ [1, 120, 0, 0, 1, 0, 1] ++
    [1, 121, 0, 0, 28, 0, 1, 0, 0, 0, 60, 0, 16, 0, 0, 0, 0, 0, 0, 0, 0, 0, 0, 0, 0, 0, 0, 0, 1]

/-- A message that is no answer to the query is accepted. -/
theorem exchange_accepts_stray_reply :
    (∃ left behind,
      exchange "db" .a exchangeOptions nameserverConnection (replyWorld strayReply) =
        (.ok (.ok [.v6 (.ofList [0, 0, 0, 0, 0, 0, 0, 1])], left), behind)) ∧
    ∃ message, Message.decode strayReply = .ok message ∧
      message.isResponse = false ∧ ⟨⟨[utf8 "db"]⟩, .a⟩ ∉ message.questions ∧
      ∀ record ∈ message.answers,
        record.type ≠ .a ∧ ¬ Message.LeadsTo message.answers ⟨[utf8 "db"]⟩ record.owner := by
  have decoded : Message.decode strayReply = .ok ⟨0, false, .noError, [⟨⟨[[120]]⟩, .a⟩],
      [⟨⟨[[121]]⟩, .aaaa, .address (.v6 (.ofList [0, 0, 0, 0, 0, 0, 0, 1]))⟩]⟩ := by
    decide +kernel
  have returns : (exchange "db" .a exchangeOptions nameserverConnection
      (replyWorld strayReply)).1.toOption.map (·.1) =
        some (.ok [.v6 (.ofList [0, 0, 0, 0, 0, 0, 0, 1])]) := by
    decide +kernel
  constructor
  · cases run : exchange "db" .a exchangeOptions nameserverConnection (replyWorld strayReply) with
    | mk result behind =>
        rw [run] at returns
        cases result with
        | error abort => cases returns
        | ok answer =>
            obtain ⟨found, left⟩ := answer
            cases returns
            exact ⟨left, behind, rfl⟩
  · refine ⟨_, decoded, rfl, by decide +kernel, ?_⟩
    intro record member
    rw [List.mem_singleton] at member
    subst member
    refine ⟨nofun, ?_⟩
    intro leads
    have same := leads.eq_asked (by simp)
    exact absurd same (by decide +kernel)

end ProxyDial.ProxiedResolver
