import Mathlib.Data.List.Basic
import ProxyDial.Proofs.Socks.Exchange

set_option autoImplicit false

/-! Every way in which a SOCKS handshake can go: how it ends, and what has been said and heard by
then. A transcript names the error of an answer that is refused; an exchange that is cut off may end
with any, and a packet that is not sent as a whole may have been begun. -/

namespace ProxyDial.Socks
open Text

/-- The sub-negotiation with user name and password. -/
inductive Authenticated (login : Credentials) : Except Abort Unit → Bytes → Bytes → Prop
  | tooLong {error : Error} (packet : passwordPacket login = .error error) :
      Authenticated login (.error (.failed error)) [] []
  | unsaid {packet begun : Bytes} {error : Error} (encoded : passwordPacket login = .ok packet)
      (inPart : begun <+: packet) : Authenticated login (.error (.failed error)) begun []
  | cut {packet part : Bytes} {error : Error} (encoded : passwordPacket login = .ok packet)
      (short : part.length < 2) : Authenticated login (.error (.failed error)) packet part
  | rejected {packet : Bytes} {revision status : UInt8}
      (encoded : passwordPacket login = .ok packet) (refused : status ≠ 0) :
      Authenticated login
        (.error (.failed (.connect (.socksCredentialsRejected login.username)))) packet
        [revision, status]
  | accepted {packet : Bytes} {revision : UInt8} (encoded : passwordPacket login = .ok packet) :
      Authenticated login (.ok ()) packet [revision, 0]

/-- The choice of a method, and the sub-negotiation where there is one. -/
inductive Negotiated (credentials : Option Credentials) : Except Abort Unit → Bytes → Bytes → Prop
  | unsaid {begun : Bytes} {error : Error} (inPart : begun <+: greeting credentials) :
      Negotiated credentials (.error (.failed error)) begun []
  | cut {part : Bytes} {error : Error} (short : part.length < 2) :
      Negotiated credentials (.error (.failed error)) (greeting credentials) part
  | otherVersion {found method : UInt8} (other : found ≠ version) :
      Negotiated credentials (.error (.failed (.protocol (.socksVersion found))))
        (greeting credentials) [found, method]
  | notOffered (none : credentials = none) :
      Negotiated credentials (.error (.failed (.protocol .socksMethodNotOffered)))
        (greeting credentials) [version, Socks.byPassword]
  | noneAcceptable :
      Negotiated credentials (.error (.failed (.connect .socksNoMethod))) (greeting credentials)
        [version, Socks.noneAcceptable]
  | unknownMethod {method : UInt8} (notNone : method ≠ noAuthentication)
      (notPassword : method ≠ Socks.byPassword) :
      Negotiated credentials (.error (.failed (.protocol (.socksUnknownMethod method))))
        (greeting credentials) [version, method]
  | withoutAuthentication :
      Negotiated credentials (.ok ()) (greeting credentials) [version, noAuthentication]
  | byPassword {login : Credentials} {result : Except Abort Unit} {packets replies : Bytes}
      (given : credentials = some login)
      (authenticated : Authenticated login result packets replies) :
      Negotiated credentials result (greeting credentials ++ packets)
        (version :: Socks.byPassword :: replies)

/-- The start of a reply that grants a request, and the length of the address and port behind it. -/
inductive BoundFrame : Bytes → Nat → Prop
  | v4 (reserved : UInt8) : BoundFrame [version, 0, reserved, 1] 6
  | v6 (reserved : UInt8) : BoundFrame [version, 0, reserved, 4] 18
  | name (reserved length : UInt8) :
      BoundFrame [version, 0, reserved, 3, length] (length.toNat + 2)

/-- The reply to a request. -/
inductive Answered (destination : Destination) : Except Abort Unit → Bytes → Prop
  | cut {part : Bytes} {error : Error} (short : part.length < 4) :
      Answered destination (.error (.failed error)) part
  | otherVersion {found code reserved type : UInt8} (other : found ≠ version) :
      Answered destination (.error (.failed (.protocol (.socksVersion found))))
        [found, code, reserved, type]
  | refused {code reserved type : UInt8} (refuses : code ≠ 0) :
      Answered destination
        (.error (.failed (.connect (.socksRejected destination.authority code (refusal code)))))
        [version, code, reserved, type]
  | unknownType {reserved type : UInt8} (unknown : type ≠ 1 ∧ type ≠ 4 ∧ type ≠ 3) :
      Answered destination (.error (.failed (.protocol (.socksUnknownAddressType type))))
        [version, 0, reserved, type]
  | cutLength {reserved : UInt8} {error : Error} :
      Answered destination (.error (.failed error)) [version, 0, reserved, 3]
  | cutBound {frame part : Bytes} {length : Nat} {error : Error} (bound : BoundFrame frame length)
      (short : part.length < length) :
      Answered destination (.error (.failed error)) (frame ++ part)
  | granted {frame address : Bytes} {length : Nat} (bound : BoundFrame frame length)
      (whole : address.length = length) : Answered destination (.ok ()) (frame ++ address)

/-- A whole handshake. -/
inductive Handshaken (destination : Destination) (credentials : Option Credentials) :
    Except Abort Unit → Bytes → Bytes → Prop
  | stopped {abort : Abort} {packets replies : Bytes}
      (negotiated : Negotiated credentials (.error abort) packets replies) :
      Handshaken destination credentials (.error abort) packets replies
  | tooLong {packets replies : Bytes} {error : Error}
      (negotiated : Negotiated credentials (.ok ()) packets replies)
      (packet : request destination = .error error) :
      Handshaken destination credentials (.error (.failed error)) packets replies
  | unasked {packets replies packet begun : Bytes} {error : Error}
      (negotiated : Negotiated credentials (.ok ()) packets replies)
      (encoded : request destination = .ok packet) (inPart : begun <+: packet) :
      Handshaken destination credentials (.error (.failed error)) (packets ++ begun) replies
  | answered {packets replies packet reply : Bytes} {result : Except Abort Unit}
      (negotiated : Negotiated credentials (.ok ()) packets replies)
      (encoded : request destination = .ok packet) (answer : Answered destination result reply) :
      Handshaken destination credentials result (packets ++ packet) (replies ++ reply)

section
variable {socket : Socket} {peer : Peer} {script : Bytes → Bytes} {options : DialOptions} {β : Type}
  {transcript : Except Abort β → Bytes → Bytes → Prop}

theorem says_ofExcept {α : Type} {value : Except Error α} {next : α → Dial β}
    (fails : ∀ error, value = .error error → transcript (.error (.failed error)) [] [])
    (goes : ∀ found, value = .ok found → Says socket peer script (next found) transcript) :
    Says socket peer script (Dial.ofExcept value >>= next) transcript := by
  cases found : value with
  | error error => exact says_fail (fails error found)
  | ok value => exact goes value found

theorem says_checkVersion {found : UInt8} {next : Unit → Dial β}
    (fails : found ≠ version →
      transcript (.error (.failed (.protocol (.socksVersion found)))) [] [])
    (goes : found = version → Says socket peer script (next ()) transcript) :
    Says socket peer script (checkVersion found >>= next) transcript := by
  unfold checkVersion
  by_cases same : found = version
  · rw [if_pos same]
    exact goes same
  · rw [if_neg same]
    exact says_fail (fails same)

theorem authenticate_transcript (delivers : peer.Delivers script) (login : Credentials) :
    Says socket peer script (authenticate login options socket) (Authenticated login) := by
  unfold authenticate
  apply says_ofExcept
  · intro error tooLong
    exact .tooLong tooLong
  · intro packet encoded
    apply says_send delivers
    · intro error begun inPart
      exact .unsaid encoded inPart
    · apply says_receive delivers
      · intro error part short
        rw [List.append_nil]
        exact .cut encoded short
      · intro status length
        obtain ⟨revision, code, rfl⟩ := List.length_eq_two.mp length
        by_cases accepted : code = 0
        · subst accepted
          apply says_pure
          rw [List.append_nil]
          exact .accepted encoded
        · have refuses : [revision, code].getD 1 0 ≠ 0 := accepted
          rw [if_pos refuses]
          apply says_fail
          rw [List.append_nil]
          exact .rejected encoded accepted

theorem negotiate_transcript (delivers : peer.Delivers script) (credentials : Option Credentials) :
    Says socket peer script (negotiate credentials options socket) (Negotiated credentials) := by
  unfold negotiate
  apply says_send delivers
  · intro error begun inPart
    exact .unsaid inPart
  · apply says_receive delivers
    · intro error part short
      rw [List.append_nil]
      exact .cut short
    · intro choice length
      obtain ⟨found, method, rfl⟩ := List.length_eq_two.mp length
      apply says_checkVersion
      · intro other
        rw [List.append_nil]
        exact .otherVersion other
      · intro same
        subst same
        have chosen : [version, method].getD 1 0 = method := rfl
        dsimp only
        rw [chosen]
        by_cases none : method = noAuthentication
        · rw [if_pos none]
          subst none
          apply says_pure
          rw [List.append_nil]
          exact .withoutAuthentication
        · rw [if_neg none]
          by_cases password : method = byPassword
          · rw [if_pos password]
            subst password
            cases credentials with
            | none => exact says_fail (.notOffered rfl)
            | some login =>
                refine (authenticate_transcript delivers login).mono ?_
                intro result packets replies authenticated
                exact .byPassword rfl authenticated
          · rw [if_neg password]
            by_cases noneFits : method = noneAcceptable
            · rw [if_pos noneFits]
              subst noneFits
              apply says_fail
              rw [List.append_nil]
              exact .noneAcceptable
            · rw [if_neg noneFits]
              apply says_fail
              rw [List.append_nil]
              exact .unknownMethod none password

/-- What a reply that grants a request says about the length of the rest. -/
theorem boundLength_transcript (delivers : peer.Delivers script) (reserved type : UInt8) :
    Says socket peer script (boundLength type options socket) fun result packets replies =>
      packets = [] ∧ match result with
        | .ok length => BoundFrame ([version, 0, reserved, type] ++ replies) length
        | .error abort => ∀ destination,
            Answered destination (.error abort) ([version, 0, reserved, type] ++ replies) := by
  unfold boundLength
  by_cases v4 : type = 1
  · rw [if_pos v4]
    subst v4
    exact says_pure ⟨rfl, .v4 reserved⟩
  · rw [if_neg v4]
    by_cases v6 : type = 4
    · rw [if_pos v6]
      subst v6
      exact says_pure ⟨rfl, .v6 reserved⟩
    · rw [if_neg v6]
      by_cases name : type = 3
      · rw [if_pos name]
        subst name
        apply says_receive delivers
        · intro error part short
          have empty : part = [] := List.eq_nil_of_length_eq_zero (Nat.lt_one_iff.mp short)
          subst empty
          exact ⟨rfl, fun _ => .cutLength⟩
        · intro bytes length
          obtain ⟨count, rfl⟩ := List.length_eq_one_iff.mp length
          exact says_pure ⟨rfl, .name reserved count⟩
      · rw [if_neg name]
        exact says_fail ⟨rfl, fun _ => .unknownType ⟨v4, v6, name⟩⟩

private theorem four_bytes {bytes : Bytes} (length : bytes.length = 4) :
    ∃ first second third fourth, bytes = [first, second, third, fourth] :=
  match bytes, length with
  | [first, second, third, fourth], _ => ⟨first, second, third, fourth, rfl⟩

theorem readReply_transcript (delivers : peer.Delivers script) (destination : Destination) :
    Says socket peer script (readReply destination options socket) fun result packets reply =>
      packets = [] ∧ Answered destination result reply := by
  unfold readReply
  apply says_receive delivers
  · intro error part short
    exact ⟨rfl, .cut short⟩
  · intro bytes length
    obtain ⟨found, code, reserved, type, rfl⟩ := four_bytes length
    apply says_checkVersion
    · intro other
      exact ⟨rfl, .otherVersion other⟩
    · intro same
      subst same
      by_cases granted : code = 0
      · subst granted
        apply says_bind (boundLength_transcript delivers reserved type)
        · intro abort packets replies found
          exact ⟨found.1, found.2 destination⟩
        · intro length packets replies found
          obtain ⟨rfl, frame⟩ := found
          apply says_receive delivers
          · intro error part short
            refine ⟨rfl, ?_⟩
            rw [← List.append_assoc]
            exact .cutBound frame short
          · intro address whole
            apply says_pure
            refine ⟨rfl, ?_⟩
            rw [List.append_nil, ← List.append_assoc]
            exact .granted frame whole
      · have refuses : [version, code, reserved, type].getD 1 0 ≠ 0 := granted
        rw [if_pos refuses]
        exact says_fail ⟨rfl, .refused granted⟩

theorem handshake_transcript (delivers : peer.Delivers script) (destination : Destination)
    (credentials : Option Credentials) {started : DialOptions} {world : World}
    {said heard : Bytes} (starts : options.started? world.now = some started)
    (exchanged : socket.Exchanged peer script said heard world) :
    (handshake destination credentials options socket).Ensures world fun result behind =>
      ∃ packets replies, Handshaken destination credentials result packets replies ∧
        socket.Exchanged peer script (said ++ packets) (heard ++ replies) behind := by
  unfold handshake
  apply Dial.ensures_bind_of_eq (Dial.started_run_of starts)
  refine says_bind (negotiate_transcript delivers credentials) ?_ ?_ _ said heard
    (exchanged.looked .starts options)
  · intro abort packets replies negotiated
    exact .stopped negotiated
  · intro done packets replies negotiated
    apply says_ofExcept
    · intro error tooLong
      rw [List.append_nil, List.append_nil]
      exact .tooLong negotiated tooLong
    · intro packet encoded
      apply says_send delivers
      · intro error begun inPart
        rw [List.append_nil]
        exact .unasked negotiated encoded inPart
      · refine (readReply_transcript delivers destination).mono ?_
        intro result more reply found
        obtain ⟨rfl, answer⟩ := found
        rw [List.append_nil]
        exact .answered negotiated encoded answer

end

end ProxyDial.Socks
