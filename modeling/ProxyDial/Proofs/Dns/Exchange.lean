import Mathlib.Data.List.Basic
import ProxyDial.Dns.Lookup
import ProxyDial.Proofs.Dns.Query
import ProxyDial.Proofs.Net.Tunnel

set_option autoImplicit false

/-! One exchange with a nameserver over a tunnel: every way in which it can go, with the query that
is sent and the bytes that are read by then. -/

namespace ProxyDial.ProxiedResolver
open Text Dns

/-- What comes of an exchange. -/
inductive Outcome
  /-- The nameserver has these addresses, or none. -/
  | found (addresses : List IpAddress)
  /-- The nameserver has failed, and does not say that there is no such name. -/
  | failed (code : ResponseCode)
  | noSuchName
  /-- The reply is no message, or one to another query. -/
  | unusable (problem : String)
  /-- The connection has given no whole reply. -/
  | broken (error : Error)
  deriving DecidableEq, Repr

namespace Outcome

/-- Whether the lookup asks for the next family after such an exchange. -/
def goesOn : Outcome → Bool
  | found _ | failed _ => true
  | noSuchName | unusable _ | broken _ => false

def addresses : Outcome → List IpAddress
  | found addresses => addresses
  | failed _ | noSuchName | unusable _ | broken _ => []

/-- The error of an exchange without an answer. -/
def error? (host : String) : Outcome → Option Error
  | found _ => none
  | failed code => some (.resolve (.lookupFailed host code.name))
  | noSuchName => some (.resolve (.noSuchHost host))
  | unusable problem => some (.protocol (.malformedResponse problem))
  | broken error => some error

/-- What is handed on with the connection behind the exchange. Without a whole reply, there is
nothing to hand on. -/
def handedOn (host : String) (left : Connection) (outcome : Outcome) :
    Except Abort (Except Error (List IpAddress) × Connection) :=
  match outcome with
  | found addresses => .ok (.ok addresses, left)
  | failed code => .ok (.error (.resolve (.lookupFailed host code.name)), left)
  | noSuchName => .ok (.error (.resolve (.noSuchHost host)), left)
  | unusable problem => .ok (.error (.protocol (.malformedResponse problem)), left)
  | broken error => .error (.failed error)

end Outcome

/-- What a reply tells to the query with this number, read by a codec. -/
inductive Told (codec : Bytes → Except String Message) (id : UInt16) (reply : Bytes) :
    Outcome → Prop
  | malformed {problem : String} (unread : codec reply = .error problem) :
      Told codec id reply (.unusable ("DNS response: " ++ problem))
  | mismatched {message : Message} (read : codec reply = .ok message) (other : message.id ≠ id) :
      Told codec id reply (.unusable ("DNS response id " ++ toString message.id.toNat ++
        " does not match query id " ++ toString id.toNat))
  | found {message : Message} (read : codec reply = .ok message) (same : message.id = id)
      (done : message.code = .noError) : Told codec id reply (.found message.addresses)
  | noSuchName {message : Message} (read : codec reply = .ok message) (same : message.id = id)
      (none : message.code = .noSuchName) : Told codec id reply .noSuchName
  | failed {message : Message} (read : codec reply = .ok message) (same : message.id = id)
      (notDone : message.code ≠ .noError) (notMissing : message.code ≠ .noSuchName) :
      Told codec id reply (.failed message.code)

theorem decodeAnswers_told (codec : Bytes → Except String Message) (id : UInt16) (host : String)
    (reply : Bytes) :
    ∃ outcome, Told codec id reply outcome ∧
      ∀ left, outcome.handedOn host left = .ok (decodeAnswers codec id host reply, left) := by
  unfold decodeAnswers
  cases decoded : codec reply with
  | error problem => exact ⟨_, .malformed decoded, fun _ => rfl⟩
  | ok message =>
      by_cases same : message.id = id
      · by_cases done : message.code = .noError
        · refine ⟨_, .found decoded same done, fun left => ?_⟩
          simp only [same, done, ne_eq, not_true, if_false, if_true]
          rfl
        · by_cases none : message.code = .noSuchName
          · refine ⟨_, .noSuchName decoded same none, fun left => ?_⟩
            simp only [same, none, ne_eq, not_true, if_false, if_true]
            rfl
          · refine ⟨_, .failed decoded same done none, fun left => ?_⟩
            simp only [same, done, none, ne_eq, not_true, if_false]
            rfl
      · refine ⟨_, .mismatched decoded same, fun left => ?_⟩
        simp only [same, ne_eq, not_false_iff, if_true]
        rfl

/-- What a talk with a nameserver goes by: its socket, the time that it may take, and how messages
are read. -/
structure Talk where
  socket : Socket
  options : DialOptions
  codec : Bytes → Except String Message

/-- An exchange about one question, under this number: what comes of it, what is sent, and what is
read. A query, and a reply, stands behind its length. Where the connection gives no whole reply, the
world behind the exchange shows why. -/
inductive Exchange (talk : Talk) (question : Question) (id : UInt16) (behind : World) :
    Outcome → Bytes → Bytes → Prop
  | unsaid {error : Error} {part : Bytes} (inPart : part <+: frame (Dns.encodeQuery id question))
      (notWhole : part ≠ frame (Dns.encodeQuery id question))
      (fails : talk.socket.Unsaid talk.options behind error) :
      Exchange talk question id behind (.broken error) part []
  | cutLength {part : Bytes} {error : Error} (short : part.length < 2)
      (fails : talk.socket.Unheard talk.options behind error) :
      Exchange talk question id behind (.broken error) (frame (Dns.encodeQuery id question)) part
  | cutReply {high low : UInt8} {part : Bytes} {error : Error}
      (short : part.length < high.toNat * 256 + low.toNat)
      (fails : talk.socket.Unheard talk.options behind error) :
      Exchange talk question id behind (.broken error) (frame (Dns.encodeQuery id question))
        (high :: low :: part)
  | answered {high low : UInt8} {reply : Bytes} {outcome : Outcome}
      (whole : reply.length = high.toNat * 256 + low.toNat)
      (told : Told talk.codec id reply outcome) :
      Exchange talk question id behind outcome (frame (Dns.encodeQuery id question))
        (high :: low :: reply)

section
variable {talk : Talk} {question : Question} {id : UInt16} {world behind : World}
  {outcome : Outcome} {packets replies : Bytes}

/-- What lets a lookup go on has been answered, whatever happens in the world behind it. -/
theorem Exchange.of_goesOn (exchange : Exchange talk question id world outcome packets replies)
    (goesOn : outcome.goesOn = true) (behind : World) :
    Exchange talk question id behind outcome packets replies := by
  cases exchange with
  | unsaid => cases goesOn
  | cutLength => cases goesOn
  | cutReply => cases goesOn
  | answered whole told => exact .answered whole told

/-- To close the connection changes nothing about what has come of an exchange. -/
theorem Exchange.of_closed {link : Link}
    (exchange : Exchange talk question id world outcome packets replies)
    (watch : behind.watch = world.watch) (here : world.links[talk.socket.id]? = some link)
    (there : behind.links[talk.socket.id]? = some { link with isOpen := false }) :
    Exchange talk question id behind outcome packets replies := by
  cases exchange with
  | unsaid inPart notWhole fails => exact .unsaid inPart notWhole (fails.of_closed watch here there)
  | cutLength short fails => exact .cutLength short (fails.of_closed watch here there)
  | cutReply short fails => exact .cutReply short (fails.of_closed watch here there)
  | answered whole told => exact .answered whole told

end

section
variable {peer : Peer} {script : Bytes → Bytes} {codec : Bytes → Except String Message}
  {options : DialOptions} {start : World → Prop}

/-- Some bytes are read, all or less, and none are said. -/
theorem receive_conducts (delivers : peer.Delivers script) (count : Nat) (connection : Connection) :
    connection.Conducts peer script codec start (receive options count connection)
      fun result packets replies left behind => packets = [] ∧
        match result with
        | .ok (bytes, next) => bytes.length = count ∧ replies = bytes ∧ next = left
        | .error abort => replies.length < count ∧
            ∃ error, connection.socket.Unheard options behind error ∧ abort = .failed error := by
  induction count using Nat.strongRecOn generalizing connection start with
  | ind count ih =>
      cases count with
      | zero =>
          rw [receive]
          exact Dial.conducts_pure fun world _ => ⟨rfl, rfl, rfl, rfl⟩
      | succ count =>
          rw [receive]
          have positive : 0 < count + 1 := Nat.succ_pos count
          apply Dial.conducts_hear delivers positive
          · intro error behind unheard
            exact ⟨rfl, positive, error, unheard, rfl⟩
          · intro fault left same
            exact Dial.conducts_fail fun world unheard => ⟨rfl, positive, _, unheard, rfl⟩
          · intro bytes left same fits
            cases bytes with
            | nil =>
                exact Dial.conducts_fail fun world ends => ⟨rfl, positive, _, ends rfl, rfl⟩
            | cons byte bytes =>
                rw [List.length_cons] at fits
                have fewer : count - bytes.length < count + 1 := by omega
                apply Dial.conducts_bind (ih (count - bytes.length) fewer left)
                · rintro abort packets replies last behind ⟨rfl, less, failed⟩
                  rw [same] at failed
                  refine ⟨rfl, ?_, failed⟩
                  simp only [List.cons_append, List.length_cons, List.length_append]
                  omega
                · rintro ⟨rest, next⟩ packets replies last -
                  apply Dial.conducts_pure
                  rintro behind ⟨rfl, exact', rfl, rfl⟩
                  refine ⟨rfl, ?_, ?_, rfl⟩
                  · simp only [List.cons_append, List.length_cons, List.length_append]
                    omega
                  · rw [List.append_nil]

/-- An exchange asks its question under the number that the world has next. -/
theorem exchange_conducts (delivers : peer.Delivers script) {host : String} {name : Name}
    (encodes : Name.ofHost host = .ok name) (type : RecordType) (connection : Connection)
    (id : UInt16) :
    connection.Conducts peer script codec (fun world => world.numbers world.drawn = id)
      (exchange host type options connection)
      fun result packets replies left behind => ∃ outcome,
        Exchange ⟨connection.socket, options, codec⟩ ⟨name, type⟩ id behind outcome packets
          replies ∧
        result = outcome.handedOn host left := by
  unfold exchange
  apply Dial.conducts_drawNumber
  have query : encodeQuery id host type = .ok (Dns.encodeQuery id ⟨name, type⟩) := by
    rw [encodeQuery, encodes]
  have small : ¬ (Dns.encodeQuery id ⟨name, type⟩).length ≥ 65536 :=
    Nat.not_le_of_lt (encodeQuery_fits encodes id type)
  -- The query is never too large, and the branch for that falls away.
  rw [query]
  simp only [Dial.ofExcept, pure_bind, if_neg small]
  apply Dial.conducts_say delivers
  · intro error behind unsaid
    exact ⟨_, .unsaid List.nil_prefix nofun unsaid, rfl⟩
  · intro fault part inPart notWhole
    apply Dial.conducts_fail
    intro behind unsaid
    rw [List.append_nil]
    exact ⟨_, .unsaid inPart notWhole unsaid, rfl⟩
  · simp only [Dial.orFail, pure_bind]
    apply Dial.conducts_bind (receive_conducts delivers 2 connection)
    · rintro abort packets part left behind ⟨rfl, short, error, fails, rfl⟩
      rw [List.append_nil]
      exact ⟨_, .cutLength short fails, rfl⟩
    · rintro ⟨length, next⟩ packets replies left same
      dsimp only
      apply Dial.conducts_known fun _ known => known
      rintro ⟨rfl, two, rfl, rfl⟩
      obtain ⟨high, low, rfl⟩ := List.length_eq_two.mp two
      apply Dial.conducts_bind (receive_conducts delivers _ next)
      · rintro abort packets part left behind ⟨rfl, short, error, fails, rfl⟩
        rw [List.append_nil, List.append_nil]
        rw [same] at fails
        exact ⟨_, .cutReply short fails, rfl⟩
      · rintro ⟨_, last⟩ packets reply left -
        dsimp only
        apply Dial.conducts_known fun _ known => known
        rintro ⟨rfl, whole, rfl, rfl⟩
        apply Dial.conducts_get
        intro world reads
        rw [reads]
        obtain ⟨outcome, told, handedOn⟩ := decodeAnswers_told codec id host reply
        apply Dial.conducts_pure
        rintro behind -
        simp only [List.append_nil]
        exact ⟨outcome, .answered whole told, (handedOn last).symm⟩

end

end ProxyDial.ProxiedResolver
