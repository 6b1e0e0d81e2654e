import ProxyDial.Dns.Lookup
import ProxyDial.Proofs.Net.Newest
import ProxyDial.Tls.Handshake

set_option autoImplicit false

/-! What handshakes and lookups do to their connection. None of their steps closes it, and a tunnel
is asked for in the clear; what fails is closed behind the step that failed, and what succeeds is
freed of its bounds. -/

namespace ProxyDial
open Text

/-! Tunnels through SOCKS proxies. -/

namespace Socks

variable {γ : Type} {view : Link → γ}

theorem send_keeps (hides : Link.HidesTalk view) (packet : Bytes) (options : DialOptions)
    (socket : Socket) : (send packet options socket).Keeps socket view := by
  apply Dial.keeps_bind (.of_still (Dial.still_budget options))
  intro limit
  apply Dial.keeps_bind (socket.update_keeps _ fun link => hides.writeLimit link _)
  intro _
  apply Dial.keeps_bind (socket.write_keeps hides packet)
  intro result
  exact .of_still (Dial.still_orFail _ result)

theorem receive_keeps (hides : Link.HidesHearing view) (options : DialOptions) (socket : Socket)
    (count : Nat) : (receive options socket count).Keeps socket view := by
  induction count using Nat.strongRecOn with
  | ind count ih =>
      cases count with
      | zero =>
          rw [receive]
          exact Dial.keeps_pure
      | succ count =>
          rw [receive]
          apply Dial.keeps_bind (.of_still (Dial.still_budget options))
          intro limit
          apply Dial.keeps_bind (socket.update_keeps _ fun link => hides.readLimit link _)
          intro _
          apply Dial.keeps_bind (socket.read_keeps hides (count + 1))
          intro result
          apply Dial.keeps_bind (.of_still (Dial.still_orFail _ result))
          intro chunk
          cases chunk with
          | nil => exact Dial.keeps_fail
          | cons byte bytes =>
              have fewer : count - bytes.length < count + 1 := by omega
              apply Dial.keeps_bind (ih (count - bytes.length) fewer)
              intro rest
              exact Dial.keeps_pure

theorem checkVersion_still (found : UInt8) : (checkVersion found).Still := by
  unfold checkVersion
  split
  · exact Dial.still_pure
  · exact Dial.still_fail

theorem authenticate_keeps (hides : Link.HidesTalk view) (credentials : Credentials)
    (options : DialOptions) (socket : Socket) :
    (authenticate credentials options socket).Keeps socket view := by
  apply Dial.keeps_bind (.of_still (Dial.still_ofExcept _))
  intro packet
  apply Dial.keeps_bind (send_keeps hides packet options socket)
  intro _
  apply Dial.keeps_bind (receive_keeps hides.toHidesHearing options socket 2)
  intro status
  split
  · exact Dial.keeps_fail
  · exact Dial.keeps_pure

theorem negotiate_keeps (hides : Link.HidesTalk view) (credentials : Option Credentials)
    (options : DialOptions) (socket : Socket) :
    (negotiate credentials options socket).Keeps socket view := by
  apply Dial.keeps_bind (send_keeps hides _ options socket)
  intro _
  apply Dial.keeps_bind (receive_keeps hides.toHidesHearing options socket 2)
  intro choice
  apply Dial.keeps_bind (.of_still (checkVersion_still _))
  intro _
  dsimp only
  split
  · exact Dial.keeps_pure
  · split
    · cases credentials with
      | some login => exact authenticate_keeps hides login options socket
      | none => exact Dial.keeps_fail
    · split
      · exact Dial.keeps_fail
      · exact Dial.keeps_fail

theorem boundLength_keeps (hides : Link.HidesHearing view) (type : UInt8) (options : DialOptions)
    (socket : Socket) : (boundLength type options socket).Keeps socket view := by
  unfold boundLength
  split
  · exact Dial.keeps_pure
  · split
    · exact Dial.keeps_pure
    · split
      · apply Dial.keeps_bind (receive_keeps hides options socket 1)
        intro length
        exact Dial.keeps_pure
      · exact Dial.keeps_fail

theorem readReply_keeps (hides : Link.HidesHearing view) (destination : Destination)
    (options : DialOptions) (socket : Socket) :
    (readReply destination options socket).Keeps socket view := by
  apply Dial.keeps_bind (receive_keeps hides options socket 4)
  intro reply
  apply Dial.keeps_bind (.of_still (checkVersion_still _))
  intro _
  dsimp only
  split
  · exact Dial.keeps_fail
  · apply Dial.keeps_bind (boundLength_keeps hides _ options socket)
    intro length
    apply Dial.keeps_bind (receive_keeps hides options socket length)
    intro bound
    exact Dial.keeps_pure

theorem handshake_keeps (hides : Link.HidesTalk view) (destination : Destination)
    (credentials : Option Credentials) (options : DialOptions) (socket : Socket) :
    (handshake destination credentials options socket).Keeps socket view := by
  apply Dial.keeps_bind (.of_still (Dial.still_started options))
  intro started
  apply Dial.keeps_bind (negotiate_keeps hides credentials started socket)
  intro _
  apply Dial.keeps_bind (.of_still (Dial.still_ofExcept _))
  intro packet
  apply Dial.keeps_bind (send_keeps hides packet started socket)
  intro _
  exact readReply_keeps hides.toHidesHearing destination started socket

end Socks

theorem Link.isOpen_hides : Link.HidesProtection Link.isOpen :=
  ⟨⟨⟨fun _ _ => rfl, fun _ _ => rfl, fun _ _ => rfl⟩, fun _ _ => rfl⟩, fun _ _ => rfl⟩

/-- A tunnel through a SOCKS proxy is a plain connection. -/
theorem Socks.dial_makesOne (proxy : Proxy) (destination : Destination) (options : DialOptions) :
    (Socks.dial proxy destination options).MakesOne fun _ link => link.tls = none := by
  apply Dial.makesOne_of_connect
  intro started socket older link world newest fresh
  have hides : Link.HidesTalk fun link : Link => (link.isOpen, link.tls) :=
    ⟨⟨fun _ _ => rfl, fun _ _ => rfl, fun _ _ => rfl⟩, fun _ _ => rfl⟩
  have ends : (handshake destination proxy.credentials started socket).Ensures world
      fun _ behind => ∃ link, socket.Newest older link behind ∧
        link.isOpen = true ∧ link.tls = none := by
    refine (handshake_keeps hides destination proxy.credentials started socket world).mono ?_
    intro result behind kept
    obtain ⟨after, stays, same⟩ := newest.kept kept
    obtain ⟨sameOpen, sameTls⟩ := Prod.mk.inj same
    exact ⟨after, stays, sameOpen.trans fresh.isOpen, sameTls.trans fresh.tls⟩
  apply Socket.Newest.ensures_closing (fun _ => rfl) ends
  · intro after behind ⟨_, plain⟩ stays
    exact ⟨after, stays, trivial, plain, nofun⟩
  · intro error after behind ⟨_, plain⟩ closed
    exact ⟨_, closed, rfl, plain, nofun⟩
  · intro done after behind ⟨isOpen, plain⟩ stays
    apply stays.ensures_update
    intro middle newestMiddle
    apply newestMiddle.ensures_update
    intro behind cleared
    refine Dial.ensures_pure ⟨_, cleared, ⟨isOpen, rfl, rfl⟩, plain, ?_⟩
    rintro connection ⟨⟩
    rfl

/-! Protection. -/

namespace Tls

theorem limitStep_keeps {γ : Type} {view : Link → γ} (hides : Link.HidesHearing view)
    (options : DialOptions) (raw : RawStream) : (limitStep options raw).Keeps raw.socket view := by
  apply Dial.keeps_bind (.of_still (Dial.still_budget options))
  intro limit
  exact raw.setLimit_keeps hides _

theorem awaitFault_keeps {α γ : Type} {view : Link → γ} (hides : Link.HidesHearing view)
    (host : String) (options : DialOptions) (room : Nat) (seen : Bytes) (raw : RawStream) :
    (awaitFault (α := α) host options room seen raw).Keeps raw.socket view := by
  induction room generalizing seen raw with
  | zero => exact Dial.keeps_fail
  | succ room ih =>
      apply Dial.keeps_bind (limitStep_keeps hides options raw)
      intro _
      apply Dial.keeps_bind_of (raw.read_keeps hides _) (raw.read_gives _)
      rintro ⟨result, behind⟩ same
      apply Dial.keeps_bind (.of_still (Dial.still_orFail _ result))
      intro bytes
      cases bytes with
      | nil => exact Dial.keeps_fail
      | cons byte bytes =>
          dsimp only
          split
          · exact Dial.keeps_fail
          · rw [← same]
            exact ih _ behind

theorem agree_keeps {γ : Type} {view : Link → γ} (hides : Link.HidesProtection view)
    (name : ServerName) (config : TlsConfig) (server : TlsServer) (raw : RawStream) :
    (agree name config server raw).Keeps raw.socket view := by
  apply Dial.keeps_bind (.of_still Dial.still_calendarTime)
  intro time
  split
  · exact Dial.keeps_fail
  · split
    · exact Dial.keeps_fail
    · split
      · exact Dial.keeps_fail
      · apply Dial.keeps_bind (raw.socket.update_keeps _ fun link => hides.tls link _)
        intro _
        apply Dial.keeps_bind (raw.setLimit_keeps hides.toHidesHearing none)
        intro _
        exact Dial.keeps_pure

theorem handshake_keeps {γ : Type} {view : Link → γ} (hides : Link.HidesProtection view)
    (host : String) (config : TlsConfig) (options : DialOptions) (raw : RawStream) :
    (handshake host config options raw).Keeps raw.socket view := by
  unfold handshake
  split
  · exact Dial.keeps_fail
  next name _ =>
    apply Dial.keeps_bind (limitStep_keeps hides.toHidesHearing options raw)
    intro _
    apply Dial.keeps_bind (raw.socket.write_keeps hides.toHidesTalk helloMark)
    intro result
    apply Dial.keeps_bind (.of_still (Dial.still_orFail _ result))
    intro _
    apply Dial.keeps_bind (.of_still (Dial.still_get fun _ => Dial.still_pure))
    intro server
    cases server with
    | none => exact awaitFault_keeps hides.toHidesHearing host options _ [] raw
    | some server =>
        dsimp only
        split
        · apply Dial.keeps_bind (limitStep_keeps hides.toHidesHearing options raw)
          intro _
          exact agree_keeps hides name config server raw
        · exact awaitFault_keeps hides.toHidesHearing host options _ [] raw

/-- A connection that is protected, and that may take any time. -/
private def IsDone (socket : Socket) (world : World) : Prop :=
  ∀ link, world.links[socket.id]? = some link →
    link.readLimit = none ∧ link.writeLimit = none ∧ link.tls.isSome = true

/-- A peer that is no server ends in a fault. -/
theorem awaitFault_gives_nothing {α : Type} (host : String) (options : DialOptions) (room : Nat)
    (seen : Bytes) (raw : RawStream) :
    (awaitFault (α := α) host options room seen raw).Gives fun _ => False := by
  induction room generalizing seen raw with
  | zero => exact Dial.gives_fail
  | succ room ih =>
      apply Dial.gives_bind
      intro _
      apply Dial.gives_bind
      rintro ⟨result, behind⟩
      apply Dial.gives_bind
      intro bytes
      cases bytes with
      | nil => exact Dial.gives_fail
      | cons byte bytes =>
          dsimp only
          split
          · exact Dial.gives_fail
          · exact ih _ behind

theorem agree_leaves (name : ServerName) (config : TlsConfig) (server : TlsServer)
    (raw : RawStream) :
    (agree name config server raw).Leaves fun _ => IsDone raw.socket := by
  apply Dial.leaves_bind
  intro time
  split
  · exact Dial.leaves_fail
  · split
    · exact Dial.leaves_fail
    · split
      · exact Dial.leaves_fail
      · intro world session _ link found
        have there : ((((world.links.modify raw.socket.id
            ({ · with tls := some (server, [], 0) })).modify raw.socket.id
            ({ · with readLimit := none })).modify raw.socket.id
            ({ · with writeLimit := none }))[raw.socket.id]? = some link) := found
        simp only [List.getElem?_modify_eq, Option.map_eq_map, Option.map_map,
          Option.map_eq_some_iff] at there
        obtain ⟨before, -, same⟩ := there
        rw [← same]
        exact ⟨rfl, rfl, rfl⟩

theorem handshake_leaves (host : String) (config : TlsConfig) (options : DialOptions)
    (raw : RawStream) :
    (handshake host config options raw).Leaves fun _ => IsDone raw.socket := by
  have never (room : Nat) : (awaitFault host options room [] raw).Leaves fun (_ : TlsSession) =>
      IsDone raw.socket := by
    intro world
    refine (awaitFault_gives_nothing host options room [] raw world).mono ?_
    intro result behind nothing session same
    exact (nothing session same).elim
  unfold handshake
  split
  · exact Dial.leaves_fail
  next name _ =>
    apply Dial.leaves_bind
    intro _
    apply Dial.leaves_bind
    intro result
    apply Dial.leaves_bind
    intro _
    apply Dial.leaves_bind
    intro server
    cases server with
    | none => exact never _
    | some server =>
        dsimp only
        split
        · apply Dial.leaves_bind
          intro _
          exact agree_leaves name config server raw
        · exact never _

end Tls

section
variable {older : List Link} {link : Link} {world : World}

/-- A connection is protected, or it is closed. -/
theorem Transport.protect_ends (host : String) (config : TlsConfig) (options : DialOptions)
    {transport : Transport} (newest : transport.raw.socket.Newest older link world)
    (isOpen : link.isOpen = true) :
    (transport.protect host config options).Ensures world fun result behind =>
      ∃ after, transport.raw.socket.Newest older after behind ∧ after.LeftBy result ∧
        (result.isOk = true → after.tls.isSome = true) ∧
        ∀ upgraded, result = .ok upgraded → upgraded.raw.socket = transport.raw.socket := by
  have begun := newest.looked .starts options
  apply ensures_started
  · intro _
    exact ⟨link, begun, trivial, nofun, nofun⟩
  · intro started _
    cases transport with
    | tls raw session =>
        apply begun.ensures_update
        intro behind closed
        exact Dial.ensures_fail ⟨_, closed, rfl, nofun, nofun⟩
    | plain raw =>
        have ends : (Tls.handshake host config started raw).Ensures
            (world.looked .starts options) fun result behind =>
            ∃ link, raw.socket.Newest older link behind ∧ link.isOpen = true ∧
              (result.isOk = true → link.Ready ∧ link.tls.isSome = true) := by
          cases run : Tls.handshake host config started raw (world.looked .starts options) with
          | mk result behind =>
              have keeps := Tls.handshake_keeps Link.isOpen_hides host config started raw
              have kept := (keeps _).of_run run
              have leaves := (Tls.handshake_leaves host config started raw _).of_run run
              obtain ⟨after, stays, sameOpen⟩ := begun.kept kept
              have stillOpen : after.isOpen = true := sameOpen.trans isOpen
              apply Dial.ensures_of_eq run
              refine ⟨after, stays, stillOpen, ?_⟩
              intro returned
              cases result with
              | error abort => cases returned
              | ok session =>
                  obtain ⟨readLimit, writeLimit, isTls⟩ := leaves session rfl after stays.here
                  exact ⟨⟨stillOpen, readLimit, writeLimit⟩, isTls⟩
        apply Socket.Newest.ensures_closing (fun _ => rfl) ends
        · intro after behind _ stays
          exact ⟨after, stays, trivial, nofun, nofun⟩
        · intro error after behind _ closed
          exact ⟨_, closed, rfl, nofun, nofun⟩
        · intro session after behind ⟨_, done⟩ stays
          obtain ⟨ready, isTls⟩ := done rfl
          refine Dial.ensures_pure ⟨after, stays, ready, fun _ => isTls, ?_⟩
          rintro upgraded ⟨⟩
          rfl

theorem Connection.protect_ends (config : TlsConfig) (options : DialOptions)
    {connection : Connection} (newest : connection.socket.Newest older link world)
    (isOpen : link.isOpen = true) :
    (connection.protect config options).Ensures world
      (connection.socket.EndsIn (fun returned link => returned = true → link.tls.isSome = true)
        older) := by
  have begun := newest.looked .starts options
  apply ensures_started
  · intro _
    exact ⟨link, begun, trivial, nofun, nofun⟩
  · intro started _
    cases Destination.parse connection.address with
    | error error =>
        apply begun.ensures_update
        intro behind closed
        exact Dial.ensures_fail ⟨_, closed, rfl, nofun, nofun⟩
    | ok destination =>
        apply Dial.ensures_bind
        refine (Transport.protect_ends destination.host config started begun isOpen).mono ?_
        rintro result behind ⟨after, stays, left, isTls, same⟩
        cases result with
        | error abort => exact ⟨after, stays, left, nofun, nofun⟩
        | ok transport =>
            refine Dial.ensures_pure ⟨after, stays, left, isTls, ?_⟩
            rintro upgraded ⟨⟩
            exact same transport rfl

end

/-! Lookups over a tunnel. -/

section
variable {α β γ : Type} {view : Link → γ} {socket : Socket}

/-- The dial works on the connection of the socket, of which it keeps the view, and returns with a
connection over it. -/
structure Socket.Carries (socket : Socket) (view : Link → γ) (dial : Dial (α × Connection)) :
    Prop where
  keeps : dial.Keeps socket view
  stays : dial.Gives fun outcome => outcome.2.socket = socket

theorem Dial.carries_pure {value : α} {connection : Connection}
    (stays : connection.socket = socket) : socket.Carries view (pure (value, connection)) :=
  ⟨keeps_pure, gives_pure stays⟩

theorem Dial.carries_fail {error : Error} :
    socket.Carries view (fail error : Dial (α × Connection)) :=
  ⟨keeps_fail, gives_fail⟩

theorem Dial.carries_behind {first : Dial β} {next : β → Dial (α × Connection)}
    (keeps : first.Keeps socket view) (carries : ∀ value, socket.Carries view (next value)) :
    socket.Carries view (first >>= next) :=
  ⟨keeps_bind keeps fun value => (carries value).keeps, gives_bind fun value =>
    (carries value).stays⟩

/-- The second step works on the connection that the first one returns with. -/
theorem Dial.carries_bind {first : Dial (β × Connection)}
    {next : β × Connection → Dial (α × Connection)} (carries : socket.Carries view first)
    (rest : ∀ value (connection : Connection), connection.socket = socket →
      connection.socket.Carries view (next (value, connection))) :
    socket.Carries view (first >>= next) := by
  have later (outcome : β × Connection) (same : outcome.2.socket = socket) :
      socket.Carries view (next outcome) := same ▸ rest outcome.1 outcome.2 same
  constructor
  · exact keeps_bind_of carries.keeps carries.stays fun outcome same => (later outcome same).keeps
  · exact gives_bind_of carries.stays fun outcome same => (later outcome same).stays

theorem Connection.read_carries (hides : Link.HidesProtection view) (size : Nat)
    (connection : Connection) : connection.socket.Carries view (connection.read size) :=
  ⟨connection.read_keeps hides size, connection.read_gives size⟩

end

namespace ProxiedResolver

variable {γ : Type} {view : Link → γ}

theorem receive_carries (hides : Link.HidesProtection view) (options : DialOptions) (count : Nat)
    (connection : Connection) :
    connection.socket.Carries view (receive options count connection) := by
  induction count using Nat.strongRecOn generalizing connection with
  | ind count ih =>
      cases count with
      | zero =>
          rw [receive]
          exact Dial.carries_pure rfl
      | succ count =>
          rw [receive]
          apply Dial.carries_behind (.of_still (Dial.still_budget options))
          intro limit
          apply Dial.carries_behind (connection.setLimit_keeps hides.toHidesHearing _)
          intro _
          apply Dial.carries_bind (connection.read_carries hides (count + 1))
          intro result behind _
          apply Dial.carries_behind (.of_still (Dial.still_orFail _ result))
          intro chunk
          cases chunk with
          | nil => exact Dial.carries_fail
          | cons byte bytes =>
              have fewer : count - bytes.length < count + 1 := by omega
              apply Dial.carries_bind (ih (count - bytes.length) fewer behind)
              intro rest final _
              exact Dial.carries_pure rfl

theorem exchange_carries (hides : Link.HidesProtection view) (host : String)
    (type : Dns.RecordType) (options : DialOptions) (connection : Connection) :
    connection.socket.Carries view (exchange host type options connection) := by
  apply Dial.carries_behind (.of_still Dial.still_drawNumber)
  intro id
  apply Dial.carries_behind (.of_still (Dial.still_ofExcept _))
  intro query
  extract_lets asking
  have asks (small : Unit) : connection.socket.Carries view (asking small) := by
    apply Dial.carries_behind (.of_still (Dial.still_budget options))
    intro limit
    apply Dial.carries_behind (connection.setLimit_keeps hides.toHidesHearing _)
    intro _
    apply Dial.carries_behind (connection.write_keeps hides _)
    intro result
    apply Dial.carries_behind (.of_still (Dial.still_orFail _ result))
    intro _
    apply Dial.carries_bind (receive_carries hides options 2 connection)
    intro length behind _
    apply Dial.carries_bind (receive_carries hides options _ behind)
    intro answer final _
    apply Dial.carries_behind (.of_still Dial.still_world)
    intro world
    exact Dial.carries_pure rfl
  split
  · exact Dial.carries_behind Dial.keeps_fail asks
  · exact asks ()

theorem queryFamilies_keeps (hides : Link.HidesProtection view) (host : String)
    (options : DialOptions) (found : List IpAddress) (failed : Option Error)
    (types : List Dns.RecordType) (connection : Connection) :
    (queryFamilies host options found failed types connection).Keeps connection.socket view := by
  induction types generalizing found failed connection with
  | nil =>
      unfold queryFamilies
      split
      · exact Dial.keeps_fail
      · exact Dial.keeps_pure
  | cons type types ih =>
      have asked := exchange_carries hides host type options connection
      apply Dial.keeps_bind_of asked.keeps asked.stays
      rintro ⟨answer, behind⟩ same
      have later (found : List IpAddress) (failed : Option Error) :
          (queryFamilies host options found failed types behind).Keeps connection.socket view :=
        same ▸ ih found failed behind
      cases answer with
      | ok addresses => exact later _ _
      | error error =>
          dsimp only
          split
          · exact later _ _
          · exact Dial.keeps_fail

end ProxiedResolver

end ProxyDial
