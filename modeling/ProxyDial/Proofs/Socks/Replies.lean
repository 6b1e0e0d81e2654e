import ProxyDial.Proofs.Socks.Encoding
import ProxyDial.Proofs.Socks.Transcript

set_option autoImplicit false

/-! The replies that a SOCKS handshake accepts. Against a proxy that plays a stream of bytes, in any
pieces, the handshake succeeds exactly when the stream starts with such replies, and then it takes
them off the connection and nothing more. The time must suffice for a read of each byte. -/

namespace ProxyDial.Socks
open Text

/-- The choice of a method, and the status of the sub-negotiation where the method has one. -/
inductive Agreed (hasCredentials : Bool) : (choice status : Bytes) → Prop
  | withoutAuthentication : Agreed hasCredentials [5, 0] []
  | byPassword (given : hasCredentials = true) (revision : UInt8) :
      Agreed hasCredentials [5, 2] [revision, 0]

/-- A reply that grants a request, with the address it is bound to and the port. -/
inductive Granted : Bytes → Prop
  | v4 (reserved : UInt8) (address : Bytes) (whole : address.length = 6) :
      Granted ([5, 0, reserved, 1] ++ address)
  | v6 (reserved : UInt8) (address : Bytes) (whole : address.length = 18) :
      Granted ([5, 0, reserved, 4] ++ address)
  | name (reserved length : UInt8) (address : Bytes)
      (whole : address.length = length.toNat + 2) :
      Granted ([5, 0, reserved, 3, length] ++ address)

/-- All that a proxy sends in a handshake that succeeds. -/
inductive Accepted (hasCredentials : Bool) : Bytes → Prop
  | replies {choice status reply : Bytes} (agreed : Agreed hasCredentials choice status)
      (granted : Granted reply) : Accepted hasCredentials (choice ++ status ++ reply)

theorem granted_iff {reply : Bytes} :
    Granted reply ↔ ∃ frame address length, BoundFrame frame length ∧ address.length = length ∧
      reply = frame ++ address := by
  constructor
  · intro granted
    cases granted with
    | v4 reserved address whole => exact ⟨_, address, 6, .v4 reserved, whole, rfl⟩
    | v6 reserved address whole => exact ⟨_, address, 18, .v6 reserved, whole, rfl⟩
    | name reserved length address whole =>
        exact ⟨_, address, _, .name reserved length, whole, rfl⟩
  · intro framed
    obtain ⟨frame, address, length, bound, whole, same⟩ := framed
    subst same
    cases bound with
    | v4 reserved => exact .v4 reserved address whole
    | v6 reserved => exact .v6 reserved address whole
    | name reserved length => exact .name reserved length address whole

theorem Negotiated.agreed {credentials : Option Credentials} {packets replies : Bytes}
    (negotiated : Negotiated credentials (.ok ()) packets replies) :
    ∃ choice status, Agreed credentials.isSome choice status ∧ replies = choice ++ status := by
  cases negotiated with
  | withoutAuthentication => exact ⟨[5, 0], [], .withoutAuthentication, rfl⟩
  | byPassword given authenticated =>
      cases authenticated with
      | @accepted packet revision encoded =>
          subst given
          exact ⟨[5, 2], [revision, 0], .byPassword rfl revision, rfl⟩

theorem Handshaken.accepted {destination : Destination} {credentials : Option Credentials}
    {packets replies : Bytes}
    (handshaken : Handshaken destination credentials (.ok ()) packets replies) :
    Accepted credentials.isSome replies := by
  cases handshaken with
  | answered negotiated encoded answer =>
      obtain ⟨choice, status, agreed, same⟩ := negotiated.agreed
      subst same
      cases answer with
      | granted bound whole => exact .replies agreed (granted_iff.mpr ⟨_, _, _, bound, whole, rfl⟩)

/-- Once it has started, a handshake fails with an error of its own. -/
theorem Handshaken.failed {destination : Destination} {credentials : Option Credentials}
    {abort : Abort} {packets replies : Bytes}
    (handshaken : Handshaken destination credentials (.error abort) packets replies) :
    ∃ error, abort = .failed error := by
  cases handshaken with
  | stopped negotiated =>
      cases negotiated with
      | byPassword given authenticated => cases authenticated <;> exact ⟨_, rfl⟩
      | unsaid => exact ⟨_, rfl⟩
      | cut => exact ⟨_, rfl⟩
      | otherVersion => exact ⟨_, rfl⟩
      | notOffered => exact ⟨_, rfl⟩
      | noneAcceptable => exact ⟨_, rfl⟩
      | unknownMethod => exact ⟨_, rfl⟩
  | tooLong => exact ⟨_, rfl⟩
  | unasked => exact ⟨_, rfl⟩
  | answered negotiated encoded answer => cases answer <;> exact ⟨_, rfl⟩

section
variable {socket : Socket} {peer : Peer} {stream : Bytes} {patience : Duration}
  {options : DialOptions}

theorem authenticate_completes (plays : peer.Plays stream patience) {login : Credentials}
    {packet : Bytes} (encoded : passwordPacket login = .ok packet) (revision : UInt8) :
    Completes socket peer stream patience options (authenticate login options socket)
      [revision, 0] () := by
  unfold authenticate
  apply completes_bind rfl (completes_ofExcept encoded)
  apply completes_bind rfl (completes_send plays packet)
  exact completes_bind rfl (completes_receive plays (rfl : [revision, 0].length = _)) completes_pure

theorem negotiate_completes (plays : peer.Plays stream patience)
    {credentials : Option Credentials} {choice status : Bytes}
    (agreed : Agreed credentials.isSome choice status)
    (encodable : ∀ login, credentials = some login → ∃ packet, passwordPacket login = .ok packet) :
    Completes socket peer stream patience options (negotiate credentials options socket)
      (choice ++ status) () := by
  unfold negotiate
  apply completes_bind rfl (completes_send plays _)
  cases agreed with
  | withoutAuthentication =>
      apply completes_bind rfl (completes_receive plays (rfl : [5, 0].length = _))
      exact completes_bind rfl completes_pure completes_pure
  | byPassword given revision =>
      apply completes_bind rfl (completes_receive plays (rfl : [5, 2].length = _))
      cases credentials with
      | none => cases given
      | some login =>
          obtain ⟨packet, encoded⟩ := encodable login rfl
          exact completes_bind rfl completes_pure (authenticate_completes plays encoded revision)

private theorem readReply_completes_of (plays : peer.Plays stream patience)
    (destination : Destination) (reserved : UInt8) {type : UInt8} {more address : Bytes}
    {length : Nat}
    (bound : Completes socket peer stream patience options (boundLength type options socket) more
      length)
    (whole : address.length = length) :
    Completes socket peer stream patience options (readReply destination options socket)
      ([5, 0, reserved, type] ++ (more ++ address)) () := by
  unfold readReply
  apply completes_bind rfl (completes_receive plays (rfl : [5, 0, reserved, type].length = 4))
  apply completes_bind rfl completes_pure
  apply completes_bind rfl bound
  exact completes_bind (List.append_nil address).symm (completes_receive plays whole)
    completes_pure

theorem readReply_completes (plays : peer.Plays stream patience) (destination : Destination)
    {reply : Bytes} (granted : Granted reply) :
    Completes socket peer stream patience options (readReply destination options socket) reply
      () := by
  cases granted with
  | v4 reserved address whole =>
      have bound : Completes socket peer stream patience options (boundLength 1 options socket)
        [] 6 := completes_pure
      exact readReply_completes_of plays destination reserved bound whole
  | v6 reserved address whole =>
      have bound : Completes socket peer stream patience options (boundLength 4 options socket)
        [] 18 := completes_pure
      exact readReply_completes_of plays destination reserved bound whole
  | name reserved length address whole =>
      have bound : Completes socket peer stream patience options (boundLength 3 options socket)
          [length] (length.toNat + 2) :=
        completes_bind rfl (completes_receive plays (rfl : [length].length = 1)) completes_pure
      exact readReply_completes_of plays destination reserved bound whole

theorem handshake_completes (plays : peer.Plays stream patience) {destination : Destination}
    {credentials : Option Credentials} {replies rest said : Bytes} {started : DialOptions}
    {world : World} (accepted : Accepted credentials.isSome replies)
    (split : stream = replies ++ rest)
    (encodable : ∀ login, credentials = some login → ∃ packet, passwordPacket login = .ok packet)
    {packet : Bytes} (encoded : request destination = .ok packet)
    (talks : socket.Talks peer said 0 world) (starts : options.started? world.now = some started)
    (enough : started.Enough world stream.length patience) :
    (handshake destination credentials options socket).Ensures world fun result behind =>
      result = .ok () ∧ (∃ said, socket.Talks peer said replies.length behind) ∧
        started.Enough behind rest.length patience := by
  unfold handshake
  apply Dial.ensures_bind_of_eq (Dial.started_run_of starts)
  cases accepted with
  | @replies choice status reply agreed granted =>
      rw [split] at enough
      refine completes_bind rfl (negotiate_completes plays agreed encodable) ?_
        (world.looked .starts options) said [] rest split talks (enough.looked .starts options)
      apply completes_bind rfl (completes_ofExcept encoded)
      apply completes_bind rfl (completes_send plays packet)
      exact readReply_completes plays destination granted

/-- The handshake succeeds exactly when the proxy's stream starts with replies that it accepts.
Those are taken off the connection, and nothing behind them. -/
theorem handshake_ok_iff_accepted (plays : peer.Plays stream patience) {destination : Destination}
    {credentials : Option Credentials} {said : Bytes} {started : DialOptions} {world : World}
    (talks : socket.Talks peer said 0 world) (starts : options.started? world.now = some started)
    (enough : started.Enough world stream.length patience)
    (host : (IpAddress.ofString? destination.host).isSome ∨ (utf8 destination.host).length ≤ 255)
    (short : ∀ login, credentials = some login →
      (utf8 login.username).length ≤ 255 ∧ (utf8 login.password).length ≤ 255) :
    (handshake destination credentials options socket).Ensures world fun result behind =>
      (result = .ok () ↔ ∃ replies, Accepted credentials.isSome replies ∧ replies <+: stream) ∧
      (∀ replies, Accepted credentials.isSome replies → replies <+: stream →
        ∃ said, socket.Talks peer said replies.length behind) ∧
      (¬ (∃ replies, Accepted credentials.isSome replies ∧ replies <+: stream) →
        ∃ error, result = .error (.failed error)) := by
  obtain ⟨packet, encoded⟩ := request_encodes host
  have encodable : ∀ login, credentials = some login →
      ∃ packet, passwordPacket login = .ok packet :=
    fun login given => passwordPacket_encodes (short login given)
  have completes : ∀ replies, Accepted credentials.isSome replies → replies <+: stream →
      (handshake destination credentials options socket).Ensures world fun result behind =>
        result = .ok () ∧ ∃ said, socket.Talks peer said replies.length behind := by
    intro replies accepted starts'
    obtain ⟨rest, split⟩ := starts'
    refine (handshake_completes plays accepted split.symm encodable encoded talks starts
      enough).mono ?_
    intro result behind found
    exact ⟨found.1, found.2.1⟩
  obtain ⟨packets, replies, handshaken, last⟩ :=
    handshake_transcript plays.delivers destination credentials starts
      (⟨talks, List.nil_prefix⟩ : socket.Exchanged peer (fun _ => stream) said [] world)
  have here : replies <+: stream := last.inScript
  refine ⟨⟨?_, ?_⟩, ?_, ?_⟩
  · intro ok
    rw [ok] at handshaken
    exact ⟨replies, handshaken.accepted, here⟩
  · intro found
    obtain ⟨replies, accepted, here⟩ := found
    exact (completes replies accepted here).1
  · intro replies accepted here
    exact (completes replies accepted here).2
  · intro refused
    cases outcome : (handshake destination credentials options socket world).1 with
    | ok done =>
        rw [outcome] at handshaken
        exact absurd ⟨replies, handshaken.accepted, here⟩ refused
    | error abort =>
        rw [outcome] at handshaken
        obtain ⟨error, same⟩ := handshaken.failed
        exact ⟨error, by rw [same]⟩

/-- A byte behind the replies belongs to the tunnel. -/
theorem handshake_leaves_tunnel_bytes :
    Accepted false [5, 0, 5, 0, 0, 1, 10, 0, 0, 2, 4, 56] ∧
      (handshake ⟨"db", 9042⟩ none .default ⟨0⟩).Ensures
        (.linked (.ofStream [5, 0, 5, 0, 0, 1, 10, 0, 0, 2, 4, 56, 7] (.closed ⟨0⟩)))
        fun result behind => result = .ok () ∧ ∃ said,
          Socket.Talks ⟨0⟩ (.ofStream [5, 0, 5, 0, 0, 1, 10, 0, 0, 2, 4, 56, 7] (.closed ⟨0⟩)) said
            12 behind := by
  have accepted : Accepted false [5, 0, 5, 0, 0, 1, 10, 0, 0, 2, 4, 56] :=
    .replies .withoutAuthentication (.v4 0 [10, 0, 0, 2, 4, 56] rfl)
  have here : [5, 0, 5, 0, 0, 1, 10, 0, 0, 2, 4, 56] <+:
      ([5, 0, 5, 0, 0, 1, 10, 0, 0, 2, 4, 56, 7] : Bytes) := ⟨[7], rfl⟩
  refine ⟨accepted, ?_⟩
  refine (handshake_ok_iff_accepted (Peer.ofStream_plays _) (World.linked_talks _) rfl
    (DialOptions.enough_of_prompt rfl (fun _ => rfl) (by decide)) (Or.inr (by decide +kernel))
    ?_).mono ?_
  · intro login impossible
    cases impossible
  · intro result behind found
    exact ⟨found.1.mpr ⟨_, accepted, here⟩, found.2.1 _ accepted here⟩

end

end ProxyDial.Socks
