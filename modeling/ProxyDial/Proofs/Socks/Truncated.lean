import ProxyDial.Proofs.Net.Ending
import ProxyDial.Proofs.Net.Tunnel
import ProxyDial.Proofs.Socks.Replies

set_option autoImplicit false

/-! Replies of a SOCKS proxy that break off. Two handshakes run side by side, the second one on a
part of what the first one hears. As long as the first one goes on, the second one does what it
does, until it waits for a byte that does not come. -/

namespace ProxyDial.Socks
open Text

section
variable {socket : Socket} {ending : Ending} {options : DialOptions} {world : World}

/-- Bytes that are wanted are taken off the stream if all of them come. -/
theorem receive_awaits {wanted unread : Bytes} {count : Nat} (size : wanted.length = count)
    (awaits : socket.Awaits ending options unread world)
    (start : unread <+: wanted ∨ wanted <+: unread) :
    (receive options socket count).Ensures world fun result behind =>
      ending.Fails result ∨ ∃ rest, unread = wanted ++ rest ∧ result = .ok wanted ∧
        socket.Awaits ending options rest behind := by
  induction count using Nat.strongRecOn generalizing wanted unread world with
  | ind count ih =>
      cases count with
      | zero =>
          have none : wanted = [] := List.eq_nil_of_length_eq_zero size
          subst none
          rw [receive]
          exact Dial.ensures_pure (Or.inr ⟨unread, rfl, rfl, awaits⟩)
      | succ count =>
          rw [receive]
          apply awaits.ensures_hear (Nat.succ_pos count)
          · intro error kind
            exact Or.inl ⟨error, rfl, kind⟩
          · intro outcome behind met
            cases met with
            | closed hangsUp all =>
                subst hangsUp
                exact Or.inl ⟨_, rfl, rfl⟩
            | late silent =>
                subst silent
                exact Or.inl ⟨_, rfl, rfl⟩
            | @part got rest split notEmpty fits further =>
                subst split
                obtain ⟨byte, bytes, more, rfl, rfl, remaining, behindStart⟩ :=
                  wanted_behind size notEmpty fits start
                have fewer : count - bytes.length < count + 1 := by omega
                apply Dial.ensures_bind_of_eq rfl
                apply Dial.ensures_bind
                refine (ih _ fewer remaining further behindStart).mono ?_
                rintro result last (⟨error, rfl, kind⟩ | ⟨rest, rfl, rfl, awaits⟩)
                · exact Or.inl ⟨error, rfl, kind⟩
                · refine Or.inr ⟨rest, ?_, rfl, awaits⟩
                  rw [List.append_assoc]

end

section
variable {one other : Socket} {peer : Peer} {stream part : Bytes} {ending : Ending}
  {started options : DialOptions}

/-- Two sockets have heard the same. The first one's peer has a stream, the second one's breaks off
behind a part of it. -/
def Abreast (one other : Socket) (peer : Peer) (stream part : Bytes) (ending : Ending)
    (options : DialOptions) (first second : World) : Prop :=
  ∃ said heard unread, one.Exchanged peer (fun _ => stream) said heard first ∧
    part = heard ++ unread ∧ other.Awaits ending options unread second

theorem Abreast.looked {first second : World}
    (abreast : Abreast one other peer stream part ending options first second)
    (kind : Ask.Kind) (mine theirs : DialOptions) :
    Abreast one other peer stream part ending options (first.looked kind mine)
      (second.looked kind theirs) := by
  obtain ⟨said, heard, unread, exchanged, split, awaits⟩ := abreast
  exact ⟨said, heard, unread, exchanged.looked kind mine, split, awaits.looked kind theirs⟩

/-- A dial on the second socket follows the one on the first, and returns the same. -/
def KeepsPace {α : Type} (one other : Socket) (peer : Peer) (stream part : Bytes) (ending : Ending)
    (options : DialOptions) (dial follower : Dial α) : Prop :=
  Dial.Follows ending dial follower (Abreast one other peer stream part ending options)
    fun value found behind last =>
      value = found ∧ Abreast one other peer stream part ending options behind last

theorem send_follows (delivers : peer.Delivers fun _ => stream) (packet : Bytes) :
    KeepsPace one other peer stream part ending options (send packet started one)
      (send packet options other) := by
  rintro first second _ behind ⟨said, heard, unread, exchanged, split, awaits⟩ run
  have further := (ensures_send delivers packet exchanged).of_run run
  apply awaits.ensures_say
  · intro error kind
    exact .inl ⟨error, rfl, kind⟩
  · intro last awaits
    exact Dial.ensures_pure (.inr ⟨(), rfl, rfl, _, heard, unread, further, split, awaits⟩)

theorem receive_follows (delivers : peer.Delivers fun _ => stream) (start : part <+: stream)
    (count : Nat) :
    KeepsPace one other peer stream part ending options (receive started one count)
      (receive options other count) := by
  rintro first second bytes behind ⟨said, heard, unread, exchanged, split, awaits⟩ run
  obtain ⟨length, further⟩ := (ensures_receive delivers count exchanged).of_run run
  subst split
  -- The bytes of the first one and those that are left to the second come from one stream.
  have both := List.prefix_or_prefix_of_prefix start further.inScript
  rw [List.prefix_append_right_inj, List.prefix_append_right_inj] at both
  refine (receive_awaits length awaits both).mono ?_
  rintro result last (fails | ⟨rest, rfl, rfl, awaits⟩)
  · exact .inl fails
  · refine .inr ⟨bytes, rfl, rfl, said, heard ++ bytes, rest, further, ?_, awaits⟩
    rw [List.append_assoc]

variable {α β : Type}

theorem keepsPace_pure (value : α) :
    KeepsPace one other peer stream part ending options (pure value) (pure value) :=
  Dial.follows_pure fun _ _ abreast => ⟨rfl, abreast⟩

theorem keepsPace_fail (error : Error) :
    KeepsPace (α := α) one other peer stream part ending options (Dial.fail error)
      (Dial.fail error) :=
  Dial.follows_fail

theorem keepsPace_bind {dial follower : Dial α} {next goes : α → Dial β}
    (step : KeepsPace one other peer stream part ending options dial follower)
    (rest : ∀ value,
      KeepsPace one other peer stream part ending options (next value) (goes value)) :
    KeepsPace one other peer stream part ending options (dial >>= next) (follower >>= goes) :=
  Dial.follows_bind_same step rest

theorem checkVersion_follows (found : UInt8) :
    KeepsPace one other peer stream part ending options (checkVersion found)
      (checkVersion found) := by
  unfold checkVersion
  split
  · exact keepsPace_pure ()
  · exact keepsPace_fail _

theorem authenticate_follows (delivers : peer.Delivers fun _ => stream) (start : part <+: stream)
    (login : Credentials) :
    KeepsPace one other peer stream part ending options (authenticate login started one)
      (authenticate login options other) := by
  unfold authenticate
  apply keepsPace_bind (Dial.follows_ofExcept _)
  intro packet
  apply keepsPace_bind (send_follows delivers packet)
  intro _
  apply keepsPace_bind (receive_follows delivers start 2)
  intro status
  split
  · exact keepsPace_fail _
  · exact keepsPace_pure ()

theorem negotiate_follows (delivers : peer.Delivers fun _ => stream) (start : part <+: stream)
    (credentials : Option Credentials) :
    KeepsPace one other peer stream part ending options (negotiate credentials started one)
      (negotiate credentials options other) := by
  unfold negotiate
  apply keepsPace_bind (send_follows delivers _)
  intro _
  apply keepsPace_bind (receive_follows delivers start 2)
  intro choice
  apply keepsPace_bind (checkVersion_follows _)
  intro _
  dsimp only
  split
  · exact keepsPace_pure ()
  · split
    · cases credentials with
      | some login => exact authenticate_follows delivers start login
      | none => exact keepsPace_fail _
    · split
      · exact keepsPace_fail _
      · exact keepsPace_fail _

theorem boundLength_follows (delivers : peer.Delivers fun _ => stream) (start : part <+: stream)
    (type : UInt8) :
    KeepsPace one other peer stream part ending options (boundLength type started one)
      (boundLength type options other) := by
  unfold boundLength
  split
  · exact keepsPace_pure 6
  · split
    · exact keepsPace_pure 18
    · split
      · apply keepsPace_bind (receive_follows delivers start 1)
        intro length
        exact keepsPace_pure _
      · exact keepsPace_fail _

theorem readReply_follows (delivers : peer.Delivers fun _ => stream) (start : part <+: stream)
    (destination : Destination) :
    KeepsPace one other peer stream part ending options (readReply destination started one)
      (readReply destination options other) := by
  unfold readReply
  apply keepsPace_bind (receive_follows delivers start 4)
  intro reply
  apply keepsPace_bind (checkVersion_follows _)
  intro _
  dsimp only
  split
  · exact keepsPace_fail _
  · apply keepsPace_bind (boundLength_follows delivers start _)
    intro length
    apply keepsPace_bind (receive_follows delivers start length)
    intro _
    exact keepsPace_pure ()

/-- What a handshake does once it has started. -/
private theorem started_follows (delivers : peer.Delivers fun _ => stream) (start : part <+: stream)
    (destination : Destination) (credentials : Option Credentials) :
    KeepsPace one other peer stream part ending options
      (do
        negotiate credentials started one
        send (← Dial.ofExcept (request destination)) started one
        readReply destination started one)
      (do
        negotiate credentials options other
        send (← Dial.ofExcept (request destination)) options other
        readReply destination options other) := by
  apply keepsPace_bind (negotiate_follows delivers start credentials)
  intro _
  apply keepsPace_bind (Dial.follows_ofExcept _)
  intro packet
  apply keepsPace_bind (send_follows delivers packet)
  intro _
  exact readReply_follows delivers start destination

theorem handshake_follows (delivers : peer.Delivers fun _ => stream) (within : part <+: stream)
    {destination : Destination} {credentials : Option Credentials} {options shorter : DialOptions}
    {first second behind : World} (starts : shorter.started? second.now = some started)
    (abreast : Abreast one other peer stream part ending started first second)
    (run : handshake destination credentials options one first = (.ok (), behind)) :
    (handshake destination credentials shorter other).Ensures second fun result last =>
      ending.Fails result ∨
        result = .ok () ∧ Abreast one other peer stream part ending started behind last := by
  obtain ⟨begun, between, begins, ran⟩ := Dial.bind_run_ok run
  obtain ⟨-, rfl⟩ := Dial.started_run_ok begins
  have follows := started_follows delivers within destination credentials _ _ ()
    behind (abreast.looked .starts options shorter) ran
  apply Dial.ensures_bind_of_eq (Dial.started_run_of starts)
  refine follows.mono ?_
  rintro result last (fails | ⟨_, returned, -, abreast⟩)
  · exact Or.inl fails
  · exact Or.inr ⟨returned, abreast⟩

end

/-- The tunnel over a connection to the proxy. -/
def openTunnel (destination : Destination) (credentials : Option Credentials)
    (options : DialOptions) (socket : Socket) : Dial RawStream := do
  match ← Dial.attempt (handshake destination credentials options socket) with
  | .error error =>
      socket.close
      .fail error
  | .ok () =>
      socket.setReadLimit none
      socket.setWriteLimit none
      return .direct socket

theorem dial_eq_openTunnel (proxy : Proxy) (destination : Destination) (options : DialOptions) :
    dial proxy destination options = (do
      let options ← Dial.started options
      let socket ← connectTo proxy.address options
      let raw ← openTunnel destination proxy.credentials options socket
      return ⟨.plain raw, destination.authority⟩) := by
  simp only [dial, openTunnel, bind_assoc]
  congr 1
  funext options
  congr 1
  funext socket
  congr 1
  funext result
  cases result with
  | error error => rfl
  | ok done => rfl

/-- There is a tunnel that takes just these replies. -/
theorem Accepted.succeeds {destination : Destination} {credentials : Option Credentials}
    {replies packet : Bytes} (accepted : Accepted credentials.isSome replies)
    (encodable : ∀ login, credentials = some login → ∃ packet, passwordPacket login = .ok packet)
    (encoded : request destination = .ok packet) :
    Succeeds (openTunnel destination credentials) RawStream.held replies := by
  obtain ⟨peer, plays⟩ : ∃ peer : Peer, peer.Plays replies ⟨0⟩ := ⟨_, Peer.ofStream_plays replies⟩
  have talks := World.linked_talks peer
  obtain ⟨options, started, starts, enough⟩ : ∃ options started : DialOptions,
      options.started? (World.linked peer).now = some started ∧
        started.Enough (World.linked peer) replies.length ⟨0⟩ := by
    refine ⟨⟨⟨1⟩, some ⟨1⟩, true⟩, _, rfl, ?_⟩
    apply DialOptions.enough_of_prompt rfl fun _ => rfl
    rw [Nat.mul_zero]
    exact Nat.one_pos
  have opens : (openTunnel destination credentials options ⟨0⟩).Ensures (.linked peer)
      fun result behind => result = .ok (.direct ⟨0⟩) ∧
        ∃ said, Socket.Talks ⟨0⟩ peer said replies.length behind := by
    apply Dial.ensures_attempt
    refine (handshake_completes plays accepted (List.append_nil replies).symm encodable encoded
      talks starts enough).mono ?_
    rintro result behind ⟨rfl, ⟨said, further⟩, -⟩
    exact further.ensures_unlimited fun _ last => ⟨rfl, said, last⟩
  obtain ⟨returns, said, last⟩ := opens
  refine ⟨options, ⟨0⟩, peer, replies, [], said, .linked peer, .direct ⟨0⟩, _, plays.delivers,
    ⟨talks, List.nil_prefix⟩, Prod.ext returns rfl, ?_⟩
  rw [RawStream.held, List.append_nil]
  exact ⟨last, List.prefix_refl replies⟩

/-- Where a tunnel opens, the handshake has succeeded. The bounds that are taken off behind it take
nothing off the stream. -/
theorem openTunnel_run_ok {destination : Destination} {credentials : Option Credentials}
    {options : DialOptions} {socket : Socket} {world behind : World} {raw : RawStream}
    (run : openTunnel destination credentials options socket world = (.ok raw, behind)) :
    raw = .direct socket ∧ ∃ middle,
      handshake destination credentials options socket world = (.ok (), middle) ∧
      ∀ peer script said heard, socket.Exchanged peer script said heard middle →
        socket.Exchanged peer script said heard behind := by
  obtain ⟨result, middle, attempted, run⟩ := Dial.bind_run_ok run
  cases result with
  | error error =>
      obtain ⟨_, _, -, impossible⟩ := Dial.bind_run_ok run
      cases impossible
  | ok done =>
      have returned : raw = .direct socket := by
        obtain ⟨_, _, -, limited⟩ := Dial.bind_run_ok run
        obtain ⟨_, _, -, returned⟩ := Dial.bind_run_ok limited
        cases returned
        rfl
      refine ⟨returned, middle, Dial.attempt_run_ok attempted, ?_⟩
      intro peer script said heard exchanged
      have unlimited : Dial.Ensures (do
          socket.setReadLimit none
          socket.setWriteLimit none
          return RawStream.direct socket) middle fun _ behind =>
            socket.Exchanged peer script said heard behind :=
        exchanged.talks.ensures_unlimited fun _ talks => ⟨talks, exchanged.inScript⟩
      exact unlimited.of_run run

/-- The replies that a tunnel takes are needed to the last byte. -/
theorem openTunnel_truncated {destination : Destination} {credentials : Option Credentials}
    {replies part : Bytes}
    (succeeds : Succeeds (openTunnel destination credentials) RawStream.held replies)
    (start : part <+: replies) (proper : part ≠ replies) (ending : Ending) :
    FailsBehind (openTunnel destination credentials) part ending := by
  obtain ⟨options, one, peer, stream, said, later, first, raw, behind, delivers, exchanged, run,
    heard⟩ := succeeds
  intro shorter started other second starts awaits
  obtain ⟨rfl, middle, ran, keeps⟩ := openTunnel_run_ok run
  rw [RawStream.held, List.append_nil] at heard
  have within : part <+: stream := start.trans heard.inScript
  have follows := handshake_follows delivers within starts
    ⟨said, [], part, exchanged, rfl, awaits⟩ ran
  apply Ending.ensures_closing _ fun _ => rfl
  refine follows.mono ?_
  rintro result last (fails | ⟨-, said', heard', unread, further, split, -⟩)
  · exact fails
  · -- The second handshake would have heard all of the replies.
    rw [(keeps _ _ _ _ further).heard_unique heard] at split
    have long : replies.length ≤ part.length := by simp [split]
    exact absurd (start.eq_of_length_le long) proper

end ProxyDial.Socks
