import ProxyDial.Net.Connect
import ProxyDial.Proofs.Net.Kept
import ProxyDial.Proofs.Net.Script

set_option autoImplicit false

/-! The connection that a dial makes. Before it connects, a dial touches no connection. Connecting
adds one behind all others, on which nothing has happened yet, and it stays the newest one while the
dial works on it. -/

namespace ProxyDial
open Text

/-- A connection on which nothing has happened yet. -/
structure Link.Fresh (link : Link) : Prop where
  isOpen : link.isOpen = true
  sent : link.sent = []
  received : link.received = 0
  readLimit : link.readLimit = none
  writeLimit : link.writeLimit = none
  tls : link.tls = none

/-- A connection that is open, and that may take any time. -/
structure Link.Ready (link : Link) : Prop where
  isOpen : link.isOpen = true
  readLimit : link.readLimit = none
  writeLimit : link.writeLimit = none

theorem Link.Fresh.ready {link : Link} (fresh : link.Fresh) : link.Ready :=
  ⟨fresh.isOpen, fresh.readLimit, fresh.writeLimit⟩

/-- What a dial leaves of its connection when it ends early. -/
def Link.AbortedBy (abort : Abort) (link : Link) : Prop :=
  match abort with
  | .failed _ => link.isOpen = false
  | .clockOverflow => True

/-- What is left of the connection that a dial has made: it is ready if the dial returns, and closed
if the dial fails. -/
def Link.LeftBy {α : Type} (result : Except Abort α) (link : Link) : Prop :=
  match result with
  | .ok _ => link.Ready
  | .error abort => link.AbortedBy abort

/-- The socket leads to the newest connection, which has been made behind the older ones. -/
structure Socket.Newest (socket : Socket) (older : List Link) (link : Link) (world : World) :
    Prop where
  links : world.links = older ++ [link]
  id : socket.id = older.length

namespace Socket.Newest

variable {socket : Socket} {older : List Link} {link after : Link} {world behind : World}

theorem here (newest : socket.Newest older link world) : world.links[socket.id]? = some link := by
  rw [newest.links, newest.id, List.getElem?_concat_length]

theorem within (newest : socket.Newest older link world) : socket.id < world.links.length :=
  (List.getElem?_eq_some_iff.mp newest.here).1

private theorem of_others (newest : socket.Newest older link world)
    (others : ∀ id, id ≠ socket.id → behind.links[id]? = world.links[id]?)
    (own : behind.links[socket.id]? = some after) : socket.Newest older after behind := by
  obtain ⟨links, id⟩ := newest
  constructor
  · apply List.ext_getElem?
    intro index
    by_cases last : index = older.length
    · rw [last, ← id, own, id, List.getElem?_concat_length]
    · have same := others index (by omega)
      rw [links] at same
      rw [same]
      rcases Nat.lt_or_gt_of_ne last with before | beyond
      · rw [List.getElem?_append_left before, List.getElem?_append_left before]
      · have past (link : Link) : (older ++ [link])[index]? = none := by
          apply List.getElem?_eq_none
          simp only [List.length_append, List.length_singleton]
          omega
        rw [past, past]
  · exact id

/-- A look at the clock leaves the connections as they are. -/
theorem looked (newest : socket.Newest older link world) (kind : Ask.Kind) (options : DialOptions) :
    socket.Newest older link (world.looked kind options) :=
  ⟨newest.links, newest.id⟩

/-- A step on the socket leaves its connection the newest one. -/
theorem kept {γ : Type} {view : Link → γ} (newest : socket.Newest older link world)
    (kept : socket.Kept view world behind) :
    ∃ after, socket.Newest older after behind ∧ view after = view link := by
  have own := kept.own
  rw [newest.here, Option.map_some] at own
  obtain ⟨after, there, same⟩ := Option.map_eq_some_iff.mp own
  have stays := newest.of_others kept.others there
  exact ⟨after, stays, same⟩

theorem update (newest : socket.Newest older link world) (change : Link → Link) :
    ∃ behind, socket.update change world = (.ok (), behind) ∧
      socket.Newest older (change link) behind := by
  refine ⟨{ world with links := world.links.modify socket.id change }, rfl, ?_⟩
  have others (id : Nat) (other : id ≠ socket.id) :
      (world.links.modify socket.id change)[id]? = world.links[id]? :=
    List.getElem?_modify_ne _ _ (Ne.symm other)
  have own : (world.links.modify socket.id change)[socket.id]? = some (change link) := by
    rw [List.getElem?_modify_eq, newest.here]
    rfl
  exact newest.of_others others own

theorem ensures_update {β : Type} {next : Unit → Dial β} {post : Except Abort β → World → Prop}
    (newest : socket.Newest older link world) (change : Link → Link)
    (rest : ∀ behind, socket.Newest older (change link) behind → (next ()).Ensures behind post) :
    Dial.Ensures (socket.update change >>= next) world post := by
  obtain ⟨behind, run, changed⟩ := newest.update change
  exact Dial.ensures_bind_of_eq run (rest behind changed)

/-- A packet is said as a whole, or the write fails and a beginning of it has been said. -/
theorem ensures_write {β : Type} {next : Except Fault Unit → Dial β}
    {post : Except Abort β → World → Prop} (newest : socket.Newest older link world)
    (isOpen : link.isOpen = true) (packet : Bytes)
    (broken : ∀ fault part behind,
      link.peer.BreaksOff link.writeLimit link.received packet link.sent fault part →
      socket.Newest older { link with sent := link.sent ++ part } behind →
      (next (.error fault)).Ensures behind post)
    (said : ∀ behind, socket.Newest older { link with sent := link.sent ++ packet } behind →
      (next (.ok ())).Ensures behind post) :
    Dial.Ensures (socket.write packet >>= next) world post := by
  have hides : Link.HidesTalk fun _ => () :=
    ⟨⟨fun _ _ => rfl, fun _ _ => rfl, fun _ _ => rfl⟩, fun _ _ => rfl⟩
  cases flows : link.peer.outflow link.writeLimit link.received 0 packet link.sent with
  | mk gone result time =>
      obtain ⟨behind, run, there, -⟩ := write_run newest.here isOpen packet flows
      have kept := (socket.write_keeps hides packet world).of_run run
      have stays := newest.of_others kept.others there
      have pours := link.peer.outflow_pours link.writeLimit link.received 0 packet link.sent
      rw [flows] at pours
      apply Dial.ensures_bind_of_eq run
      cases pours with
      | whole => exact said behind stays
      | broken _ breaks => exact broken _ _ behind breaks stays

/-- A handshake on the newest connection, which is closed when the handshake fails. -/
theorem ensures_closing {α β : Type} {handshake : Dial α} {next : Except Error α → Dial β}
    {good : Except Abort α → Link → Prop} {post : Except Abort β → World → Prop}
    (closes : ∀ error, next (.error error) = (do socket.close; Dial.fail error))
    (ends : handshake.Ensures world fun result behind =>
      ∃ link, socket.Newest older link behind ∧ good result link)
    (overflowed : ∀ link behind, good (.error .clockOverflow) link →
      socket.Newest older link behind → post (.error .clockOverflow) behind)
    (failed : ∀ error link behind, good (.error (.failed error)) link →
      socket.Newest older { link with isOpen := false } behind →
        post (.error (.failed error)) behind)
    (done : ∀ value link behind, good (.ok value) link → socket.Newest older link behind →
      (next (.ok value)).Ensures behind post) :
    Dial.Ensures (Dial.attempt handshake >>= next) world post := by
  apply Dial.ensures_attempt
  refine ends.mono ?_
  rintro result behind ⟨link, newest, holds⟩
  cases result with
  | ok value => exact done value link behind holds newest
  | error abort =>
      cases abort with
      | clockOverflow => exact overflowed link behind holds newest
      | failed error =>
          dsimp only
          rw [closes]
          apply newest.ensures_update
          intro closed closedNewest
          exact Dial.ensures_fail (failed error link closed holds closedNewest)

end Socket.Newest

theorem Socket.connect_adds (address : SocketAddress) (limit : Duration) (world : World) :
    (connect address limit).Ensures world fun result behind =>
      match result with
      | .ok (.ok socket) => ∃ link, socket.Newest world.links link behind ∧ link.Fresh
      | .ok (.error _) | .error _ => behind.links = world.links := by
  unfold Dial.Ensures
  rw [connect_run]
  cases (world.network (world.attemptCount address) address).meets limit with
  | mk result time =>
      cases result with
      | error fault => exact rfl
      | ok peer => exact ⟨_, ⟨rfl, rfl⟩, rfl, rfl, rfl, rfl, rfl, rfl⟩

/-- Of a dial of a socket: it makes the connection of the socket, on which nothing has happened, or
none. -/
def Dial.Adds (dial : Dial Socket) : Prop :=
  ∀ world, dial.Ensures world fun result behind =>
    match result with
    | .ok socket => ∃ link, socket.Newest world.links link behind ∧ link.Fresh
    | .error _ => behind.links = world.links

theorem Dial.adds_fail {error : Error} : Adds (fail error) := fun _ => rfl

theorem Dial.adds_behind {α : Type} {first : Dial α} {next : α → Dial Socket}
    (still : first.Still) (adds : ∀ value, (next value).Adds) : Adds (first >>= next) := by
  intro world
  apply Dial.ensures_bind
  refine (still world).mono ?_
  intro result middle same
  cases result with
  | error abort => exact same
  | ok value =>
      have later := adds value middle
      rw [same] at later
      exact later

theorem connectFirst_adds (options : DialOptions) (last : Option Fault)
    (addresses : List SocketAddress) : (connectFirst options last addresses).Adds := by
  induction addresses generalizing last with
  | nil =>
      cases last with
      | none => exact Dial.adds_fail
      | some fault => exact Dial.adds_fail
  | cons address rest ih =>
      have goesOn : (connectFirst options none (address :: rest)).Adds := by
        apply Dial.adds_behind (Dial.still_budget options)
        intro limit world
        apply Dial.ensures_bind
        refine (Socket.connect_adds address limit world).mono ?_
        intro result middle found
        cases result with
        | error abort => exact found
        | ok outcome =>
            cases outcome with
            | error fault =>
                have same : middle.links = world.links := found
                have walked := ih (some fault) middle
                rw [same] at walked
                exact walked
            | ok socket =>
                obtain ⟨link, newest, fresh⟩ := found
                dsimp only
                split
                · apply newest.ensures_update
                  intro behind still
                  have stays : Link.Fresh { link with nodelay := true } :=
                    ⟨fresh.isOpen, fresh.sent, fresh.received, fresh.readLimit, fresh.writeLimit,
                      fresh.tls⟩
                  exact Dial.ensures_pure ⟨_, still, stays⟩
                · exact Dial.ensures_pure ⟨link, newest, fresh⟩
      cases last with
      | none => exact goesOn
      | some fault => exact goesOn

theorem connectAny_adds (addresses : List SocketAddress) (options : DialOptions) :
    (connectAny addresses options).Adds := by
  apply Dial.adds_behind (Dial.still_started options)
  intro started
  exact connectFirst_adds started none addresses

theorem systemAddresses_still (host : List Char) : (systemAddresses host).Still := by
  unfold systemAddresses
  split
  · exact Dial.still_pure
  · split
    · exact Dial.still_pure
    · apply Dial.still_bind (Dial.still_awaitLookup _)
      intro _
      exact Dial.still_get fun _ => Dial.still_pure

theorem addressesOf_still (address : String) : (addressesOf address).Still := by
  unfold addressesOf
  dsimp only
  split
  · exact Dial.still_pure
  · exact Dial.still_pure
  · split
    · exact Dial.still_pure
    · exact Dial.still_bind (systemAddresses_still _) fun _ => Dial.still_pure

theorem connectTo_adds (address : String) (options : DialOptions) :
    (connectTo address options).Adds := by
  apply Dial.adds_behind (Dial.still_started options)
  intro started
  apply Dial.adds_behind (addressesOf_still address)
  intro outcome
  split
  · exact Dial.adds_fail
  · exact Dial.adds_fail
  · exact connectAny_adds _ started

/-- The connection of the socket is left as it should be by a dial that ends so. -/
def Socket.EndsIn (socket : Socket) (good : (returned : Bool) → Link → Prop)
    (older : List Link) (result : Except Abort Connection) (behind : World) : Prop :=
  ∃ link, socket.Newest older link behind ∧ link.LeftBy result ∧ good result.isOk link ∧
    ∀ connection, result = .ok connection → connection.socket = socket

/-- The dial makes one connection and leaves it as it should; or it makes none, and fails. -/
def Dial.MakesOne (dial : Dial Connection) (good : (returned : Bool) → Link → Prop) : Prop :=
  ∀ world, dial.Ensures world fun result behind =>
    (behind.links = world.links ∧ result.isOk = false) ∨
      ∃ socket : Socket, socket.EndsIn good world.links result behind

/-- A dial that connects to an address first, and then works on the new connection. -/
theorem Dial.makesOne_of_connect {address : String} {options : DialOptions}
    {tunnel : DialOptions → Socket → Dial Connection} {good : (returned : Bool) → Link → Prop}
    (tunnels : ∀ (started : DialOptions) {socket : Socket} {older : List Link} {link : Link}
      {world : World}, socket.Newest older link world → link.Fresh →
        (tunnel started socket).Ensures world (socket.EndsIn good older)) : MakesOne (do
      let started ← Dial.started options
      tunnel started (← connectTo address started)) good := by
  intro world
  apply ensures_started
  · intro _
    exact .inl ⟨rfl, rfl⟩
  · intro started _
    apply Dial.ensures_bind
    refine (connectTo_adds address started (world.looked .starts options)).mono ?_
    intro result behind added
    cases result with
    | error abort => exact .inl ⟨added, rfl⟩
    | ok socket =>
        obtain ⟨link, newest, fresh⟩ := added
        refine (tunnels started newest fresh).mono ?_
        intro result behind ends
        exact .inr ⟨socket, ends⟩

end ProxyDial
