import ProxyDial.Proofs.Net.HostKept
import ProxyDial.Proofs.Net.Uses

set_option autoImplicit false

/-! Talks over an open tunnel. A step of such a talk works on a connection and goes on with another
value of it, since bytes that were held back are read first. What a talk says and what it reads is
described once for each of its steps, and followed from the first step to the last. -/

namespace ProxyDial
open Text

def RawStream.held : RawStream → Bytes
  | direct _ => []
  | tunneled stream => stream.held

/-- The last look at the clock has been for what is left of a dial's time, and has told this. -/
def World.Drew (options : DialOptions) (outcome : Except Error Duration) (world : World) : Prop :=
  ∃ now, world.watch.asks.getLast? = some ⟨.draws, options, now⟩ ∧ options.budget now = outcome

namespace Socket

/-- What a read that is made now and may take so long gets from the peer. -/
def Meets (socket : Socket) (limit : Option Duration) (size : Nat) (outcome : Except Fault Bytes)
    (world : World) : Prop :=
  ∃ link, world.links[socket.id]? = some link ∧
    ((link.peer.next link.sent link.received).meets limit size).1 = outcome

/-- A call that sends now and may take so long fails, and nothing further is taken. -/
def Refuses (socket : Socket) (limit : Option Duration) (fault : Fault) (world : World) : Prop :=
  ∃ link, world.links[socket.id]? = some link ∧
    ((link.peer.takes link.sent link.received).meets limit).1 = .error fault

/-- Why a packet that was to be said last has not been said whole, as the world behind it shows: no
time is left for it, or the peer takes no more of it within the time that is left. -/
inductive Unsaid (socket : Socket) (options : DialOptions) (world : World) : Error → Prop
  | expired {error : Error} (drew : world.Drew options (.error error)) :
      Unsaid socket options world error
  | refused {left : Duration} {fault : Fault} (drew : world.Drew options (.ok left))
      (refuses : socket.Refuses (some left) fault world) :
      Unsaid socket options world (.ofFault fault)

/-- Why nothing has been heard last: no time is left for a read, it fails within the time that is
left, or it comes to the end of the stream. -/
inductive Unheard (socket : Socket) (options : DialOptions) (world : World) : Error → Prop
  | expired {error : Error} (drew : world.Drew options (.error error)) :
      Unheard socket options world error
  | failed {left : Duration} {size : Nat} {fault : Fault} (drew : world.Drew options (.ok left))
      (meets : socket.Meets (some left) size (.error fault) world) :
      Unheard socket options world (.ofHandshakeFault fault)
  | ended {left : Duration} {size : Nat} (drew : world.Drew options (.ok left))
      (positive : 0 < size) (meets : socket.Meets (some left) size (.ok []) world) :
      Unheard socket options world (.ofHandshakeFault .unexpectedEnd)

/-- Both directions of a socket are bounded alike. -/
def Limited (socket : Socket) (limit : Option Duration) (world : World) : Prop :=
  ∃ link, world.links[socket.id]? = some link ∧ link.readLimit = limit ∧ link.writeLimit = limit

section
variable {socket : Socket} {options : DialOptions} {world behind : World} {error : Error}

/-- To close the socket afterwards changes nothing about the reasons. -/
theorem Unsaid.of_closed {link : Link} (unsaid : socket.Unsaid options world error)
    (watch : behind.watch = world.watch) (here : world.links[socket.id]? = some link)
    (there : behind.links[socket.id]? = some { link with isOpen := false }) :
    socket.Unsaid options behind error := by
  cases unsaid with
  | expired drew =>
      unfold World.Drew at drew
      rw [← watch] at drew
      exact .expired drew
  | refused drew refuses =>
      unfold World.Drew at drew
      rw [← watch] at drew
      obtain ⟨other, same, meets⟩ := refuses
      rw [here] at same
      cases same
      exact .refused drew ⟨_, there, meets⟩

theorem Unheard.of_closed {link : Link} (unheard : socket.Unheard options world error)
    (watch : behind.watch = world.watch) (here : world.links[socket.id]? = some link)
    (there : behind.links[socket.id]? = some { link with isOpen := false }) :
    socket.Unheard options behind error := by
  cases unheard with
  | expired drew =>
      unfold World.Drew at drew
      rw [← watch] at drew
      exact .expired drew
  | failed drew meets =>
      unfold World.Drew at drew
      rw [← watch] at drew
      obtain ⟨other, same, meets⟩ := meets
      rw [here] at same
      cases same
      exact .failed drew ⟨_, there, meets⟩
  | ended drew positive meets =>
      unfold World.Drew at drew
      rw [← watch] at drew
      obtain ⟨other, same, meets⟩ := meets
      rw [here] at same
      cases same
      exact .ended drew positive ⟨_, there, meets⟩

end

end Socket

section
variable {socket : Socket} {peer : Peer} {script : Bytes → Bytes} {said heard : Bytes}
  {world : World} {left : Duration}

/-- A read within the time that is left adds to what has been heard, or tells why it does not. -/
theorem Socket.Exchanged.read (delivers : peer.Delivers script)
    (exchanged : socket.Exchanged peer script said heard world)
    (limited : socket.Limited (some left) world) {size : Nat} (positive : 0 < size) :
    ∃ outcome behind, socket.read size world = (.ok outcome, behind) ∧
      behind.watch = world.watch ∧
      match outcome with
      | .ok bytes => bytes.length ≤ size ∧
          socket.Exchanged peer script said (heard ++ bytes) behind ∧
          (bytes = [] → socket.Meets (some left) size (.ok []) behind)
      | .error fault => socket.Exchanged peer script said heard behind ∧
          socket.Meets (some left) size (.error fault) behind := by
  obtain ⟨link, here, isOpen, rfl, rfl, sameReceived⟩ := exchanged.talks
  obtain ⟨other, same, readLimit, -⟩ := limited
  rw [here] at same
  cases same
  obtain ⟨behind, run, there, later⟩ := read_run here isOpen positive
  rw [readLimit] at run there
  refine ⟨_, behind, run, later.watch, ?_⟩
  cases met : (link.peer.next link.sent link.received).meets (some left) size with
  | mk outcome delay =>
      rw [met] at there
      cases outcome with
      | error fault =>
          refine ⟨⟨⟨link, there, isOpen, rfl, rfl, sameReceived⟩, exchanged.inScript⟩, ?_⟩
          exact ⟨link, there, by rw [met]⟩
      | ok bytes =>
          obtain ⟨part, fits, -⟩ := delivers.meets positive met
          rw [sameReceived] at part
          have talks : socket.Talks link.peer link.sent (heard.length + bytes.length) behind :=
            ⟨_, there, isOpen, rfl, rfl, congrArg (· + bytes.length) sameReceived⟩
          refine ⟨fits, exchanged.hear part talks, ?_⟩
          rintro rfl
          exact ⟨_, there, by rw [Link.hear, List.length_nil, Nat.add_zero, met]⟩

/-- A write within the time that is left says the packet, or a part of it and why there is no more.
-/
theorem Socket.Exchanged.write (delivers : peer.Delivers script)
    (exchanged : socket.Exchanged peer script said heard world)
    (limited : socket.Limited (some left) world) (packet : Bytes) :
    ∃ outcome part behind, socket.write packet world = (.ok outcome, behind) ∧
      behind.watch = world.watch ∧ socket.Exchanged peer script (said ++ part) heard behind ∧
      match outcome with
      | .ok () => part = packet
      | .error fault => part <+: packet ∧ part ≠ packet ∧
          socket.Refuses (some left) fault behind := by
  obtain ⟨link, here, isOpen, rfl, rfl, sameReceived⟩ := exchanged.talks
  obtain ⟨other, same, -, writeLimit⟩ := limited
  rw [here] at same
  cases same
  have pours := link.peer.outflow_pours (some left) link.received 0 packet link.sent
  have flows : link.peer.outflow link.writeLimit link.received 0 packet link.sent =
      link.peer.outflow (some left) link.received 0 packet link.sent := by
    rw [writeLimit]
  obtain ⟨behind, run, there, later⟩ := write_run here isOpen packet flows
  generalize link.peer.outflow (some left) link.received 0 packet link.sent = flow at *
  have grown (part : Bytes) (same : flow.sent = link.sent ++ part) :
      socket.Exchanged link.peer script (link.sent ++ part) heard behind := by
    rw [same] at there
    exact ⟨⟨_, there, isOpen, rfl, rfl, sameReceived⟩,
      exchanged.inScript.trans (delivers.grows _ part)⟩
  cases pours with
  | whole => exact ⟨_, packet, behind, run, later.watch, grown packet rfl, rfl⟩
  | @broken fault part _ breaks =>
      exact ⟨_, part, behind, run, later.watch, grown part rfl, breaks.inPart, breaks.notWhole,
        _, there, breaks.meets⟩

/-- A read gives what is held back while there is any, and what arrives else. -/
theorem RawStream.read_exchanged (delivers : peer.Delivers script) {raw : RawStream} {got : Bytes}
    (exchanged : raw.socket.Exchanged peer script said (got ++ raw.held) world)
    (limited : raw.socket.Limited (some left) world) {size : Nat} (positive : 0 < size) :
    ∃ outcome next behind, raw.read size world = (.ok (outcome, next), behind) ∧
      next.socket = raw.socket ∧ behind.watch = world.watch ∧
      match outcome with
      | .ok bytes => bytes.length ≤ size ∧
          next.socket.Exchanged peer script said (got ++ bytes ++ next.held) behind ∧
          (bytes = [] → raw.socket.Meets (some left) size (.ok []) behind)
      | .error fault => next.socket.Exchanged peer script said (got ++ next.held) behind ∧
          raw.socket.Meets (some left) size (.error fault) behind := by
  cases raw with
  | direct socket =>
      rw [RawStream.held, RawStream.socket, List.append_nil] at exchanged
      obtain ⟨outcome, behind, run, watch, told⟩ := exchanged.read delivers limited positive
      have whole : RawStream.read size (.direct socket) world =
          (.ok (outcome, .direct socket), behind) := by
        simp only [RawStream.read, Dial.bind_run, run]
        rfl
      refine ⟨outcome, .direct socket, behind, whole, rfl, watch, ?_⟩
      cases outcome <;> simpa only [RawStream.held, RawStream.socket, List.append_nil] using told
  | tunneled stream =>
      obtain ⟨held, socket⟩ := stream
      by_cases empty : held = []
      · subst empty
        rw [RawStream.held, RawStream.socket, List.append_nil] at exchanged
        obtain ⟨outcome, behind, run, watch, told⟩ := exchanged.read delivers limited positive
        refine ⟨outcome, .tunneled ⟨[], socket⟩, behind, tunneled_read_inner run, rfl, watch, ?_⟩
        cases outcome <;> simpa only [RawStream.held, RawStream.socket, List.append_nil] using told
      · have split : got ++ held.take size ++ held.drop size = got ++ held := by
          rw [List.append_assoc, List.take_append_drop]
        refine ⟨.ok (held.take size), .tunneled ⟨held.drop size, socket⟩, world,
          tunneled_read_held size empty, rfl, rfl, List.length_take_le size held, ?_, ?_⟩
        · rw [RawStream.held, split]
          exact exchanged
        · intro none
          exact absurd none (take_ne_nil positive empty)

end

/-- A plain connection over which so much has been said to a peer, and read of what its script has
for that. What is held back has been heard as well, and is read next. -/
structure Connection.Tunnels (connection : Connection) (peer : Peer) (script : Bytes → Bytes)
    (said got : Bytes) (world : World) : Prop where
  plain : connection.isTls = false
  exchanged : connection.socket.Exchanged peer script said (got ++ connection.transport.raw.held)
    world

namespace Connection.Tunnels

variable {connection : Connection} {peer : Peer} {script : Bytes → Bytes} {said got : Bytes}
  {world behind : World} {left : Duration}

/-- What does not touch the connections leaves them as they are. -/
theorem of_links (tunnels : connection.Tunnels peer script said got world)
    (same : behind.links = world.links) : connection.Tunnels peer script said got behind := by
  obtain ⟨plain, ⟨talks, inScript⟩⟩ := tunnels
  unfold Socket.Talks at talks
  rw [← same] at talks
  exact ⟨plain, talks, inScript⟩

theorem setLimit (tunnels : connection.Tunnels peer script said got world)
    (limit : Option Duration) :
    ∃ behind, connection.setLimit limit world = (.ok (), behind) ∧ behind.watch = world.watch ∧
      connection.Tunnels peer script said got behind ∧ connection.socket.Limited limit behind := by
  obtain ⟨plain, ⟨⟨link, here, isOpen, samePeer, sent, received⟩, inScript⟩⟩ := tunnels
  obtain ⟨middle, readRun, halfWay, later⟩ :=
    Socket.update_run ({ · with readLimit := limit }) here
  obtain ⟨behind, writeRun, there, last⟩ :=
    Socket.update_run ({ · with writeLimit := limit }) halfWay
  have run : connection.setLimit limit world = (.ok (), behind) := by
    change (connection.socket.setReadLimit limit >>= fun _ =>
      connection.socket.setWriteLimit limit) world = _
    rw [Dial.bind_run, Socket.setReadLimit, readRun]
    exact writeRun
  exact ⟨behind, run, last.watch.trans later.watch,
    ⟨plain, ⟨_, there, isOpen, samePeer, sent, received⟩, inScript⟩, _, there, rfl, rfl⟩

theorem write (delivers : peer.Delivers script)
    (tunnels : connection.Tunnels peer script said got world)
    (limited : connection.socket.Limited (some left) world) (packet : Bytes) :
    ∃ outcome part behind, connection.write packet world = (.ok outcome, behind) ∧
      behind.watch = world.watch ∧ connection.Tunnels peer script (said ++ part) got behind ∧
      match outcome with
      | .ok () => part = packet
      | .error fault => part <+: packet ∧ part ≠ packet ∧
          connection.socket.Refuses (some left) fault behind := by
  obtain ⟨transport, address⟩ := connection
  cases transport with
  | tls raw session => cases tunnels.plain
  | plain raw =>
      obtain ⟨outcome, part, behind, run, watch, exchanged, told⟩ :=
        tunnels.exchanged.write delivers limited packet
      exact ⟨outcome, part, behind, run, watch, ⟨rfl, exchanged⟩, told⟩

theorem read (delivers : peer.Delivers script)
    (tunnels : connection.Tunnels peer script said got world)
    (limited : connection.socket.Limited (some left) world) {size : Nat} (positive : 0 < size) :
    ∃ outcome next behind, connection.read size world = (.ok (outcome, next), behind) ∧
      next.socket = connection.socket ∧ behind.watch = world.watch ∧
      match outcome with
      | .ok bytes => bytes.length ≤ size ∧ next.Tunnels peer script said (got ++ bytes) behind ∧
          (bytes = [] → connection.socket.Meets (some left) size (.ok []) behind)
      | .error fault => next.Tunnels peer script said got behind ∧
          connection.socket.Meets (some left) size (.error fault) behind := by
  obtain ⟨transport, address⟩ := connection
  cases transport with
  | tls raw session => cases tunnels.plain
  | plain raw =>
      have exchanged : raw.socket.Exchanged peer script said (got ++ raw.held) world :=
        tunnels.exchanged
      obtain ⟨outcome, next, behind, run, same, watch, told⟩ :=
        RawStream.read_exchanged delivers exchanged limited positive
      have whole : Connection.read size ⟨.plain raw, address⟩ world =
          (.ok (outcome, ⟨.plain next, address⟩), behind) := by
        simp only [Connection.read, Dial.bind_run, run]
        rfl
      refine ⟨outcome, ⟨.plain next, address⟩, behind, whole, same, watch, ?_⟩
      cases outcome with
      | ok bytes => exact ⟨told.1, ⟨rfl, told.2.1⟩, told.2.2⟩
      | error fault => exact ⟨⟨rfl, told.1⟩, told.2⟩

end Connection.Tunnels

/-- Wherever a dial starts on a tunnel in such a world, a transcript describes its result, what it
says, what it reads, and the connection and the world behind it. Messages are read by one codec all
the time. -/
def Connection.Conducts {α : Type} (connection : Connection) (peer : Peer)
    (script : Bytes → Bytes) (codec : Bytes → Except String Dns.Message) (start : World → Prop)
    (dial : Dial α)
    (transcript : Except Abort α → Bytes → Bytes → Connection → World → Prop) : Prop :=
  ∀ world said got, world.codec = codec → start world →
    connection.Tunnels peer script said got world →
      dial.Ensures world fun result behind => ∃ packets replies left,
        transcript result packets replies left behind ∧ left.socket = connection.socket ∧
          left.Tunnels peer script (said ++ packets) (got ++ replies) behind ∧
          behind.codec = codec

theorem Connection.Conducts.mono {α : Type} {connection : Connection} {peer : Peer}
    {script : Bytes → Bytes} {codec : Bytes → Except String Dns.Message} {start : World → Prop}
    {dial : Dial α}
    {transcript weaker : Except Abort α → Bytes → Bytes → Connection → World → Prop}
    (conducts : connection.Conducts peer script codec start dial transcript)
    (weaken : ∀ result packets replies left behind,
      transcript result packets replies left behind → weaker result packets replies left behind) :
    connection.Conducts peer script codec start dial weaker := by
  intro world said got reads starts tunnels
  refine (conducts world said got reads starts tunnels).mono ?_
  rintro result behind ⟨packets, replies, left, held, rest⟩
  exact ⟨packets, replies, left, weaken result packets replies left behind held, rest⟩

namespace Dial

variable {α β : Type} {connection : Connection} {peer : Peer} {script : Bytes → Bytes}
  {codec : Bytes → Except String Dns.Message} {start : World → Prop} {options : DialOptions}

theorem conducts_pure {transcript : Except Abort α → Bytes → Bytes → Connection → World → Prop}
    {value : α} (holds : ∀ world, start world → transcript (.ok value) [] [] connection world) :
    connection.Conducts peer script codec start (pure value) transcript := by
  intro world said got reads starts tunnels
  rw [← List.append_nil said, ← List.append_nil got] at tunnels
  exact ensures_pure ⟨[], [], connection, holds world starts, rfl, tunnels, reads⟩

theorem conducts_fail {transcript : Except Abort α → Bytes → Bytes → Connection → World → Prop}
    {error : Error}
    (holds : ∀ world, start world → transcript (.error (.failed error)) [] [] connection world) :
    connection.Conducts peer script codec start (fail error) transcript := by
  intro world said got reads starts tunnels
  rw [← List.append_nil said, ← List.append_nil got] at tunnels
  exact ensures_fail ⟨[], [], connection, holds world starts, rfl, tunnels, reads⟩

/-- A talk that goes on from something may be followed from each thing that it can be. -/
theorem conducts_exists {ι : Type} {start : ι → World → Prop} {dial : Dial α}
    {transcript : Except Abort α → Bytes → Bytes → Connection → World → Prop}
    (conducts : ∀ index, connection.Conducts peer script codec (start index) dial transcript) :
    connection.Conducts peer script codec (fun world => ∃ index, start index world) dial
      transcript := by
  rintro world said got reads ⟨index, starts⟩ tunnels
  exact conducts index world said got reads starts tunnels

/-- What is known beside the world that a talk starts in may be assumed. -/
theorem conducts_assume {known : Prop} {dial : Dial α}
    {transcript : Except Abort α → Bytes → Bytes → Connection → World → Prop}
    (conducts : known → connection.Conducts peer script codec start dial transcript) :
    connection.Conducts peer script codec (fun world => start world ∧ known) dial transcript := by
  rintro world said got reads ⟨starts, holds⟩ tunnels
  exact conducts holds world said got reads starts tunnels

/-- What is known of every world that a talk starts in may be assumed. -/
theorem conducts_known {known : Prop} {dial : Dial α}
    {transcript : Except Abort α → Bytes → Bytes → Connection → World → Prop}
    (implies : ∀ world, start world → known)
    (conducts : known → connection.Conducts peer script codec (fun _ => True) dial transcript) :
    connection.Conducts peer script codec start dial transcript :=
  fun world said got reads starts => conducts (implies world starts) world said got reads trivial

/-- The second step starts in the world that the first one has left behind. -/
theorem conducts_bind {first : Dial α} {next : α → Dial β}
    {middle : Except Abort α → Bytes → Bytes → Connection → World → Prop}
    {transcript : Except Abort β → Bytes → Bytes → Connection → World → Prop}
    (step : connection.Conducts peer script codec start first middle)
    (stops : ∀ abort packets replies left behind,
      middle (.error abort) packets replies left behind →
        transcript (.error abort) packets replies left behind)
    (goes : ∀ value packets replies (left : Connection), left.socket = connection.socket →
      left.Conducts peer script codec (middle (.ok value) packets replies left) (next value)
        fun result more further last behind =>
          transcript result (packets ++ more) (replies ++ further) last behind) :
    connection.Conducts peer script codec start (first >>= next) transcript := by
  intro world said got reads starts tunnels
  apply ensures_bind
  refine (step world said got reads starts tunnels).mono ?_
  intro result behind found
  obtain ⟨packets, replies, left, held, same, tunnels, reads⟩ := found
  cases result with
  | error abort =>
      exact ⟨packets, replies, left, stops abort packets replies left behind held, same, tunnels,
        reads⟩
  | ok value =>
      refine (goes value packets replies left same behind _ _ reads held tunnels).mono ?_
      intro result last found
      obtain ⟨more, further, final, held, sameFinal, tunnels, reads⟩ := found
      rw [List.append_assoc, List.append_assoc] at tunnels
      exact ⟨packets ++ more, replies ++ further, final, held, sameFinal.trans same, tunnels, reads⟩

/-- A talk that looks at the world finds the codec there. -/
theorem conducts_get {next : World → Dial β}
    {transcript : Except Abort β → Bytes → Bytes → Connection → World → Prop}
    (goes : ∀ world, world.codec = codec →
      connection.Conducts peer script codec start (next world) transcript) :
    connection.Conducts peer script codec start (get >>= next) transcript :=
  fun world said got reads starts tunnels =>
    ensures_bind_of_eq (get_run world) (goes world reads world said got reads starts tunnels)

/-- The number that is drawn is the next one of the world. -/
theorem conducts_drawNumber {next : UInt16 → Dial β} {id : UInt16}
    {transcript : Except Abort β → Bytes → Bytes → Connection → World → Prop}
    (goes : connection.Conducts peer script codec (fun _ => True) (next id) transcript) :
    connection.Conducts peer script codec (fun world => world.numbers world.drawn = id)
      (drawNumber >>= next) transcript := by
  rintro world said got reads rfl tunnels
  have here : connection.Tunnels peer script said got { world with drawn := world.drawn + 1 } :=
    tunnels.of_links rfl
  exact ensures_bind_of_eq rfl (goes _ said got reads trivial here)

/-- What is known of a talk for each number is known of it for the one that the world has next. -/
theorem conducts_numbered {dial : Dial α}
    {transcript : UInt16 → Except Abort α → Bytes → Bytes → Connection → World → Prop}
    (goes : ∀ id, connection.Conducts peer script codec
      (fun world => world.numbers world.drawn = id) dial (transcript id)) :
    connection.Conducts peer script codec start dial fun result packets replies left behind =>
      ∃ id, transcript id result packets replies left behind := by
  intro world said got reads _ tunnels
  refine (goes _ world said got reads rfl tunnels).mono ?_
  rintro result behind ⟨packets, replies, left, held, rest⟩
  exact ⟨packets, replies, left, ⟨_, held⟩, rest⟩

/-- A step for which the time that is left is drawn, and both directions are bounded by it. -/
private theorem ensures_limited {next : Dial β} {post : Except Abort β → World → Prop}
    {world : World} {said got : Bytes} (reads : world.codec = codec)
    (tunnels : connection.Tunnels peer script said got world)
    (expired : ∀ error, (world.looked .draws options).Drew options (.error error) →
      post (.error (.failed error)) (world.looked .draws options))
    (goes : ∀ left limited, limited.codec = codec → limited.Drew options (.ok left) →
      connection.Tunnels peer script said got limited →
      connection.socket.Limited (some left) limited → next.Ensures limited post) :
    Dial.Ensures (do
      connection.setLimit (some (← budget options))
      next) world post := by
  have looks : (world.looked .draws options).watch.asks.getLast? =
      some ⟨.draws, options, world.now⟩ := List.getLast?_concat
  apply Socket.ensures_budget
  · intro error spent
    exact expired error ⟨world.now, looks, spent⟩
  · intro left enough
    have looked : connection.Tunnels peer script said got (world.looked .draws options) :=
      tunnels.of_links rfl
    obtain ⟨limited, run, watch, tunnels, bounded⟩ := looked.setLimit (some left)
    have kept : limited.codec = codec := by
      rw [(connection.setLimit_keepsHost (some left)).codec_eq run]
      exact reads
    rw [← watch] at looks
    exact ensures_bind_of_eq run (goes left limited kept ⟨world.now, looks, enough⟩ tunnels bounded)

/-- A packet that is said within the time that is left, or a part of it. -/
theorem conducts_say (delivers : peer.Delivers script) {packet : Bytes}
    {next : Except Fault Unit → Dial β}
    {transcript : Except Abort β → Bytes → Bytes → Connection → World → Prop}
    (expired : ∀ error behind, connection.socket.Unsaid options behind error →
      transcript (.error (.failed error)) [] [] connection behind)
    (broken : ∀ fault part, part <+: packet → part ≠ packet →
      connection.Conducts peer script codec
        (connection.socket.Unsaid options · (.ofFault fault)) (next (.error fault))
        fun result more replies left behind => transcript result (part ++ more) replies left behind)
    (said : connection.Conducts peer script codec (fun _ => True) (next (.ok ()))
      fun result more replies left behind =>
        transcript result (packet ++ more) replies left behind) :
    connection.Conducts peer script codec start (do
      connection.setLimit (some (← budget options))
      next (← connection.write packet)) transcript := by
  intro world gone got reads _ tunnels
  apply ensures_limited reads tunnels
  · intro error drew
    exact conducts_fail (fun behind unsaid => expired error behind unsaid) _ gone got reads
      (.expired drew) (tunnels.of_links rfl)
  · intro left limited reads drew tunnels bounded
    obtain ⟨outcome, part, behind, run, watch, tunnels, told⟩ :=
      tunnels.write delivers bounded packet
    have kept : behind.codec = codec := by
      rw [(connection.write_keepsHost packet).codec_eq run]
      exact reads
    apply ensures_bind_of_eq run
    have rest : (next outcome).Ensures behind fun result last => ∃ more replies left,
        transcript result (part ++ more) replies left last ∧ left.socket = connection.socket ∧
          left.Tunnels peer script (gone ++ part ++ more) (got ++ replies) last ∧
          last.codec = codec := by
      cases outcome with
      | error fault =>
          obtain ⟨inPart, notWhole, refuses⟩ := told
          unfold World.Drew at drew
          rw [← watch] at drew
          exact broken fault part inPart notWhole behind _ got kept (.refused drew refuses) tunnels
      | ok done =>
          have whole : part = packet := told
          subst whole
          exact said behind _ got kept trivial tunnels
    refine rest.mono ?_
    rintro result last ⟨more, replies, left, held, same, tunnels, reads⟩
    rw [List.append_assoc] at tunnels
    exact ⟨part ++ more, replies, left, held, same, tunnels, reads⟩

/-- A read within the time that is left. -/
theorem conducts_hear (delivers : peer.Delivers script) {size : Nat} (positive : 0 < size)
    {next : Except Fault Bytes × Connection → Dial β}
    {transcript : Except Abort β → Bytes → Bytes → Connection → World → Prop}
    (expired : ∀ error behind, connection.socket.Unheard options behind error →
      transcript (.error (.failed error)) [] [] connection behind)
    (failed : ∀ fault (left : Connection), left.socket = connection.socket →
      left.Conducts peer script codec
        (connection.socket.Unheard options · (.ofHandshakeFault fault))
        (next (.error fault, left)) transcript)
    (heard : ∀ (bytes : Bytes) (left : Connection), left.socket = connection.socket →
      bytes.length ≤ size →
      left.Conducts peer script codec (fun world => bytes = [] →
          connection.socket.Unheard options world (.ofHandshakeFault .unexpectedEnd))
        (next (.ok bytes, left)) fun result packets further last behind =>
          transcript result packets (bytes ++ further) last behind) :
    connection.Conducts peer script codec start (do
      connection.setLimit (some (← budget options))
      next (← connection.read size)) transcript := by
  intro world said got reads _ tunnels
  apply ensures_limited reads tunnels
  · intro error drew
    exact conducts_fail (fun behind unheard => expired error behind unheard) _ said got reads
      (.expired drew) (tunnels.of_links rfl)
  · intro left limited reads drew tunnels bounded
    obtain ⟨outcome, further, behind, run, same, watch, told⟩ :=
      tunnels.read delivers bounded positive
    have kept : behind.codec = codec := by
      rw [(connection.read_keepsHost size).codec_eq run]
      exact reads
    unfold World.Drew at drew
    rw [← watch] at drew
    apply ensures_bind_of_eq run
    cases outcome with
    | error fault =>
        obtain ⟨tunnels, meets⟩ := told
        refine (failed fault further same behind said got kept (.failed drew meets) tunnels).mono ?_
        rintro result last ⟨packets, replies, final, held, sameFinal, rest⟩
        exact ⟨packets, replies, final, held, sameFinal.trans same, rest⟩
    | ok bytes =>
        obtain ⟨fits, tunnels, ends⟩ := told
        refine (heard bytes further same fits behind said _ kept
          (fun empty => .ended drew positive (ends empty)) tunnels).mono ?_
        rintro result last ⟨packets, replies, final, held, sameFinal, tunnels, reads⟩
        rw [List.append_assoc] at tunnels
        exact ⟨packets, bytes ++ replies, final, held, sameFinal.trans same, tunnels, reads⟩

end Dial

end ProxyDial
