import ProxyDial.Proofs.Dial.Sockets
import ProxyDial.Proofs.Http.Transparency
import ProxyDial.Proofs.Net.Tunnel
import ProxyDial.Proofs.Net.Unwatched
import ProxyDial.Proofs.Socks.Transcript

set_option autoImplicit false

/-! The tunnel that a dialer returns with. Whatever the proxy has made of its handshake, the
connection goes on right behind the answer of the proxy: the bytes that are held back, and then what
the peer still has. -/

namespace ProxyDial
open Text

/-- What every peer of a network says is known from its script. -/
def Network.Scripted (network : Network) (script : Peer → Bytes → Bytes) : Prop :=
  ∀ count address delay peer, network count address = .accepted delay peer →
    peer.Delivers (script peer)

/-- Whatever connection a dial returns with is a tunnel to a peer of the network. -/
def Dial.OpensTunnel (dial : Dial Connection) : Prop :=
  ∀ world script, world.network.Scripted script → dial.Ensures world fun result behind =>
    ∀ connection, result = .ok connection → ∃ peer, peer.Delivers (script peer) ∧
      ∃ said got, connection.Tunnels peer (script peer) said got behind

/-- The socket leads to a peer of the network. -/
def Socket.FromNetwork (network : Network) (result : Except Abort Socket) (behind : World) : Prop :=
  ∀ socket, result = .ok socket → ∃ link count address delay,
    behind.links[socket.id]? = some link ∧ network count address = .accepted delay link.peer

theorem Socket.connect_fromNetwork (address : SocketAddress) (limit : Duration) (world : World) :
    (connect address limit).Ensures world fun result behind =>
      match result with
      | .ok (.ok socket) => ∃ link delay, behind.links[socket.id]? = some link ∧
          world.network (world.attemptCount address) address = .accepted delay link.peer
      | .ok (.error _) | .error _ => behind.network = world.network := by
  unfold Dial.Ensures
  rw [connect_run]
  cases met : (world.network (world.attemptCount address) address).meets limit with
  | mk result time =>
      cases result with
      | error fault => exact rfl
      | ok peer =>
          exact ⟨_, time, List.getElem?_concat_length, Reception.meets_ok met⟩

theorem connectFirst_fromNetwork (options : DialOptions) (last : Option Fault)
    (addresses : List SocketAddress) (world : World) :
    (connectFirst options last addresses).Ensures world (Socket.FromNetwork world.network) := by
  induction addresses generalizing last world with
  | nil => cases last <;> exact nofun
  | cons address rest ih =>
      have goesOn : (connectFirst options none (address :: rest)).Ensures world
          (Socket.FromNetwork world.network) := by
        apply Socket.ensures_budget
        · intro error _
          exact nofun
        · intro limit _
          apply Dial.ensures_bind
          refine (Socket.connect_fromNetwork address limit (world.looked .draws options)).mono ?_
          intro result behind met
          cases result with
          | error abort => exact nofun
          | ok outcome =>
              cases outcome with
              | error fault =>
                  have same : behind.network = world.network := met
                  rw [← same]
                  exact ih (some fault) behind
              | ok socket =>
                  obtain ⟨link, delay, here, known⟩ := met
                  dsimp only
                  split
                  · obtain ⟨last, run, there, -⟩ :=
                      Socket.update_run ({ · with nodelay := true }) here
                    apply Dial.ensures_bind_of_eq run
                    apply Dial.ensures_pure
                    rintro socket ⟨⟩
                    exact ⟨_, _, address, delay, there, known⟩
                  · apply Dial.ensures_pure
                    rintro socket ⟨⟩
                    exact ⟨link, _, address, delay, here, known⟩
      cases last with
      | none => exact goesOn
      | some fault => exact goesOn

theorem connectTo_fromNetwork (address : String) (options : DialOptions) (world : World) :
    (connectTo address options).Ensures world (Socket.FromNetwork world.network) := by
  apply ensures_started
  · intro _
    exact nofun
  · intro started _
    apply Dial.ensures_bind
    refine (addressesOf_waits address (world.looked .starts options)).mono ?_
    rintro result behind ⟨duration, rfl⟩
    cases result with
    | error abort => exact nofun
    | ok outcome =>
        dsimp only
        split
        · exact nofun
        · exact nofun
        · apply ensures_started
          · intro _
            exact nofun
          · intro begun _
            exact connectFirst_fromNetwork begun none _ (World.looked .starts started _)

/-- A dial that connects to an address first, and then works on the new connection. -/
theorem Dial.opensTunnel_of_connect {address : String} {options : DialOptions}
    {tunnel : DialOptions → Socket → Dial Connection}
    (tunnels : ∀ {started : DialOptions} {deadline : Instant} {socket : Socket} {peer : Peer}
      {script : Bytes → Bytes} {world : World}, started.deadline = some deadline →
        peer.Delivers script → socket.Exchanged peer script [] [] world →
        (tunnel started socket).Ensures world fun result behind =>
          ∀ connection, result = .ok connection →
            ∃ said got, connection.Tunnels peer script said got behind) : OpensTunnel (do
      let started ← Dial.started options
      tunnel started (← connectTo address started)) := by
  intro world script scripted
  apply ensures_started
  · intro _
    exact nofun
  · intro started starts
    obtain ⟨deadline, has⟩ := DialOptions.deadline_of_started? starts
    have added := connectTo_adds address started (world.looked .starts options)
    have fromNetwork := connectTo_fromNetwork address started (world.looked .starts options)
    apply Dial.ensures_bind
    cases run : connectTo address started (world.looked .starts options) with
    | mk result connected =>
        replace added := added.of_run run
        replace fromNetwork := fromNetwork.of_run run
        apply Dial.ensures_of_eq run
        cases result with
        | error abort => exact nofun
        | ok socket =>
            obtain ⟨link, newest, fresh⟩ := added
            obtain ⟨same, count, address, delay, here, known⟩ := fromNetwork socket rfl
            rw [newest.here] at here
            cases here
            have talks : socket.Talks link.peer [] 0 connected :=
              ⟨link, newest.here, fresh.isOpen, rfl, fresh.sent, fresh.received⟩
            have delivers := scripted count address delay link.peer known
            refine (tunnels has delivers ⟨talks, List.nil_prefix⟩).mono ?_
            intro result behind found connection same
            exact ⟨link.peer, delivers, found connection same⟩

namespace Http

theorem dial_opensTunnel (proxy : Proxy) (destination : Destination) (options : DialOptions) :
    (dial proxy destination options).OpensTunnel := by
  apply Dial.opensTunnel_of_connect
  intro started deadline socket peer script world _ delivers exchanged
  apply Dial.ensures_bind
  refine (ensures_openTunnel delivers destination proxy.authorization exchanged).mono ?_
  intro result behind found
  cases result with
  | error abort => nofun
  | ok raw =>
      obtain ⟨held, heard, rfl, flows, inScript, ends⟩ := found raw rfl
      apply Dial.ensures_pure
      rintro connection ⟨⟩
      -- The answer of the proxy is what stands in front of the bytes that are held back.
      have behindAnswer := ends []
      rw [List.append_nil, List.append_nil] at behindAnswer
      obtain ⟨answer, rfl⟩ := behindHead_suffix behindAnswer
      exact ⟨_, answer, rfl, flows.talks, inScript⟩

end Http

namespace Socks

theorem dial_opensTunnel (proxy : Proxy) (destination : Destination) (options : DialOptions) :
    (dial proxy destination options).OpensTunnel := by
  apply Dial.opensTunnel_of_connect
  intro started deadline socket peer script world has delivers exchanged
  have starts : started.started? world.now = some started := by
    unfold DialOptions.started?
    rw [has]
  apply Dial.ensures_attempt
  refine (handshake_transcript delivers destination proxy.credentials starts exchanged).mono ?_
  rintro result behind ⟨packets, replies, -, talks, inScript⟩
  cases result with
  | error abort =>
      cases abort with
      | clockOverflow => nofun
      | failed error => exact Dial.ensures_bind_of_eq rfl (Dial.ensures_fail nofun)
  | ok done =>
      apply talks.ensures_unlimited
      rintro unlimited stillTalks connection ⟨⟩
      have exchanged : socket.Exchanged peer script ([] ++ packets) ([] ++ replies) unlimited :=
        ⟨stillTalks, inScript⟩
      rw [← List.append_nil ([] ++ replies)] at exchanged
      exact ⟨_, _, rfl, exchanged⟩

end Socks

theorem ProxyDialer.dialAddress_opensTunnel (dialer : ProxyDialer) (address : String) :
    (dialer.dialAddress address).OpensTunnel := by
  unfold dialAddress
  cases parsed : Destination.parse address with
  | error error => exact fun _ _ _ => nofun
  | ok destination =>
      intro world script scripted
      apply Dial.ensures_bind_of_eq (Dial.ofExcept_run destination world)
      cases dialer.proxy.scheme with
      | http =>
          have opens := Http.dial_opensTunnel dialer.proxy destination dialer.options
          exact opens world script scripted
      | socks5 =>
          have opens := Socks.dial_opensTunnel dialer.proxy destination dialer.options
          exact opens world script scripted

end ProxyDial
