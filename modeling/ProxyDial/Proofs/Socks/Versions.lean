import ProxyDial.Proofs.Socks.Replies

set_option autoImplicit false

/-! The version bytes of the proxy's messages. The choice of a method and the reply to the request
are taken with the version of the protocol only. The status of the sub-negotiation has a version
byte too, but nobody looks at it. -/

namespace ProxyDial.Socks
open Text

/-- The version of the sub-negotiation with user name and password. -/
def passwordVersion : UInt8 := 1

variable {destination : Destination} {credentials : Option Credentials}
  {packets replies choice status reply : Bytes}

/-- Against a proxy that plays a stream of bytes, in any pieces, the handshake succeeds as long as
the time suffices. -/
def SucceedsOn (destination : Destination) (credentials : Option Credentials) (stream : Bytes) :
    Prop :=
  ∀ (socket : Socket) (peer : Peer) (patience : Duration) (options started : DialOptions)
    (world : World), peer.Plays stream patience → socket.Talks peer [] 0 world →
    options.started? world.now = some started →
    started.Enough world stream.length patience →
      (handshake destination credentials options socket).Ensures world fun result _ =>
        result = .ok ()

/-- What is known of the versions in accepted messages, the choice of a method, the status and the
reply. Without sub-negotiation there is no status. Where there has been one, the status has some
version, and any other one would have been accepted in its place. -/
inductive Versioned (destination : Destination) (credentials : Option Credentials) (reply : Bytes) :
    Bytes → Bytes → Prop
  | withoutAuthentication (ofReply : reply.head? = some version) :
      Versioned destination credentials reply [version, noAuthentication] []
  | byPassword (found : UInt8) (ofReply : reply.head? = some version)
      (withOther : ∀ other rest, SucceedsOn destination credentials
        ([version, Socks.byPassword] ++ [other, 0] ++ reply ++ rest)) :
      Versioned destination credentials reply [version, Socks.byPassword] [found, 0]

theorem Granted.head? (granted : Granted reply) : reply.head? = some version := by
  cases granted with
  | v4 reserved address whole => rfl
  | v6 reserved address whole => rfl
  | name reserved length address whole => rfl

/-- The status may carry any version, if all else can be said and is granted. -/
theorem succeedsOn_of_status {login : Credentials} {packet asked : Bytes}
    (encodedLogin : passwordPacket login = .ok packet)
    (encoded : request destination = .ok asked) (granted : Granted reply)
    (other : UInt8) (rest : Bytes) :
    SucceedsOn destination (some login) ([version, byPassword] ++ [other, 0] ++ reply ++ rest) := by
  intro socket peer patience options started world plays talks starts enough
  have accepted : Accepted (some login).isSome ([version, byPassword] ++ [other, 0] ++ reply) :=
    .replies (.byPassword rfl other) granted
  have encodable : ∀ other, some login = some other →
      ∃ packet, passwordPacket other = .ok packet := by
    intro other same
    cases same
    exact ⟨packet, encodedLogin⟩
  refine (handshake_completes plays accepted rfl encodable encoded talks starts enough).mono ?_
  intro result behind completes
  exact completes.1

theorem Handshaken.versioned
    (handshaken : Handshaken destination credentials (.ok ()) packets replies) :
    ∃ choice status reply, replies = choice ++ status ++ reply ∧
      Versioned destination credentials reply choice status := by
  cases handshaken with
  | answered negotiated encoded answer =>
      cases answer with
      | granted bound whole =>
          have granted := granted_iff.mpr ⟨_, _, _, bound, whole, rfl⟩
          cases negotiated with
          | withoutAuthentication =>
              exact ⟨_, _, _, rfl, .withoutAuthentication granted.head?⟩
          | byPassword given authenticated =>
              subst given
              cases authenticated with
              | @accepted packet found encodedLogin =>
                  have withOther := succeedsOn_of_status encodedLogin encoded granted
                  exact ⟨_, _, _, rfl, .byPassword found granted.head? withOther⟩

/-- Whatever a proxy sends, in whatever pieces: where the handshake succeeds, all that has been
heard are the messages that make it up. Those of the protocol itself have its version. That of the
sub-negotiation has some version, and the handshake succeeds with any other one in its place. -/
theorem handshake_versions {socket : Socket} {peer : Peer} {script : Bytes → Bytes} {world : World}
    (delivers : peer.Delivers script) (talks : socket.Talks peer [] 0 world)
    (destination : Destination) (credentials : Option Credentials) (options : DialOptions) :
    (handshake destination credentials options socket).Ensures world fun result behind =>
      result = .ok () → ∃ said choice status reply,
        socket.Exchanged peer script said (choice ++ status ++ reply) behind ∧
        Versioned destination credentials reply choice status := by
  cases starts : options.started? world.now with
  | none =>
      unfold handshake
      apply ensures_started
      case starts =>
        intro started impossible
        rw [starts] at impossible
        cases impossible
      case overflow =>
        intro _ impossible
        cases impossible
  | some started =>
      refine (handshake_transcript delivers destination credentials starts
        ⟨talks, List.nil_prefix⟩).mono ?_
      intro result behind found ok
      obtain ⟨said, heard, handshaken, exchanged⟩ := found
      rw [ok] at handshaken
      obtain ⟨choice, status, reply, rfl, versioned⟩ := handshaken.versioned
      exact ⟨said, choice, status, reply, exchanged, versioned⟩

/-- A proxy that asks for a password, accepts it with this version in the status, and grants the
tunnel. -/
private theorem handshake_succeeds_with_status (found : UInt8) :
    (handshake ⟨"db", 9042⟩ (some ⟨"scylla", "tunnel-pass"⟩) .default ⟨0⟩).Ensures
      (.linked (.ofStream [5, 2, found, 0, 5, 0, 0, 1, 10, 0, 0, 2, 4, 56] (.closed ⟨0⟩)))
      fun result _ => result = .ok () := by
  have granted : Granted [5, 0, 0, 1, 10, 0, 0, 2, 4, 56] := .v4 0 [10, 0, 0, 2, 4, 56] rfl
  obtain ⟨packet, encodedLogin⟩ : ∃ packet, passwordPacket ⟨"scylla", "tunnel-pass"⟩ = .ok packet :=
    passwordPacket_encodes (by decide +kernel)
  obtain ⟨asked, encoded⟩ : ∃ packet, request ⟨"db", 9042⟩ = .ok packet :=
    request_encodes (.inr (by decide +kernel))
  have succeeds := succeedsOn_of_status encodedLogin encoded granted found []
  have starts : DialOptions.default.started? ⟨0⟩ =
      some (DialOptions.default.withDeadline ⟨30 * Duration.perSecond⟩) := by decide
  have inTime : 0 + 14 * 0 < 30 * Duration.perSecond := by decide
  exact succeeds ⟨0⟩ _ ⟨0⟩ .default _ _ (Peer.ofStream_plays _) (World.linked_talks _) starts
    (DialOptions.enough_of_prompt rfl (fun _ => rfl) inTime)

/-- Messages with the versions that they should have are accepted, and heard as they are. -/
theorem handshake_versions_with_password :
    (handshake ⟨"db", 9042⟩ (some ⟨"scylla", "tunnel-pass"⟩) .default ⟨0⟩).Ensures
      (.linked (.ofStream [5, 2, 1, 0, 5, 0, 0, 1, 10, 0, 0, 2, 4, 56] (.closed ⟨0⟩)))
      fun result behind => result = .ok () ∧ ∃ said choice status reply,
        Socket.Exchanged ⟨0⟩ (.ofStream [5, 2, 1, 0, 5, 0, 0, 1, 10, 0, 0, 2, 4, 56] (.closed ⟨0⟩))
          (fun _ => [5, 2, 1, 0, 5, 0, 0, 1, 10, 0, 0, 2, 4, 56]) said (choice ++ status ++ reply)
          behind ∧
        Versioned ⟨"db", 9042⟩ (some ⟨"scylla", "tunnel-pass"⟩) reply choice status := by
  have versions := handshake_versions
    (Peer.ofStream_plays [5, 2, 1, 0, 5, 0, 0, 1, 10, 0, 0, 2, 4, 56]).delivers
    (World.linked_talks _) ⟨"db", 9042⟩ (some ⟨"scylla", "tunnel-pass"⟩) .default
  refine ((handshake_succeeds_with_status 1).and versions).mono ?_
  intro result behind ⟨ok, versioned⟩
  exact ⟨ok, versioned ok⟩

/-- A proxy that sends the version of the protocol in the status, and is accepted. -/
theorem handshake_ignores_status_version :
    Granted [5, 0, 0, 1, 10, 0, 0, 2, 4, 56] ∧ (5 : UInt8) ≠ passwordVersion ∧
      (handshake ⟨"db", 9042⟩ (some ⟨"scylla", "tunnel-pass"⟩) .default ⟨0⟩).Ensures
        (.linked (.ofStream [5, 2, 5, 0, 5, 0, 0, 1, 10, 0, 0, 2, 4, 56] (.closed ⟨0⟩)))
        fun result _ => result = .ok () :=
  ⟨.v4 0 [10, 0, 0, 2, 4, 56] rfl, by decide, handshake_succeeds_with_status 5⟩

end ProxyDial.Socks
