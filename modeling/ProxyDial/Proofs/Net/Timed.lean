import ProxyDial.Net.Connect
import ProxyDial.Net.Stream
import ProxyDial.Proofs.Dial.Elapsed
import ProxyDial.Proofs.Net.Talk

set_option autoImplicit false

/-! How long the steps of a handshake wait. A read or a write waits no longer than its limit, and
the limit is what is left of the budget, set right before. Everything else on a socket takes no
time, but for an attempt to connect. -/

namespace ProxyDial
open Text

theorem Arrival.meets_le (limit : Duration) (size : Nat) (arrival : Arrival) :
    (arrival.meets (some limit) size).2.nanoseconds ≤ limit.nanoseconds := by
  cases arrival with
  | data delay bytes => exact waited_le limit _
  | closed delay => exact waited_le limit _
  | failed delay fault => exact waited_le limit _
  | silence => exact Nat.le_refl _

theorem Reception.meets_le (limit : Duration) (reception : Reception) :
    (reception.meets limit).2.nanoseconds ≤ limit.nanoseconds := by
  cases reception with
  | accepted delay peer => exact waited_le limit _
  | refused delay fault => exact waited_le limit _
  | silence => exact Nat.le_refl _

/-- A connection that comes about leads to a peer of the network. -/
theorem Reception.meets_ok {limit time : Duration} {reception : Reception} {peer : Peer}
    (met : reception.meets limit = (.ok peer, time)) : reception = .accepted time peer := by
  cases reception with
  | accepted delay found =>
      rw [meets] at met
      obtain ⟨same, rfl⟩ := waited_ok met
      cases same
      rfl
  | refused delay fault =>
      rw [meets] at met
      obtain ⟨impossible, -⟩ := waited_ok met
      cases impossible
  | silence => cases met

namespace Socket

variable {socket : Socket} {side : Link → Option Duration} {limit : Duration} {world : World}

theorem update_lasts (change : Link → Link) (socket : Socket)
    (same : ∀ link, (change link).peer = link.peer) : (socket.update change).Lasts 0 := by
  refine Dial.lasts_modify (fun _ => rfl) (fun _ => rfl) fun world prompt => ?_
  refine ⟨prompt.pauses, prompt.lookups, prompt.network, ?_⟩
  intro link member
  obtain ⟨index, found⟩ := List.mem_iff_getElem?.mp member
  change (world.links.modify socket.id change)[index]? = some link at found
  rw [List.getElem?_modify] at found
  obtain ⟨before, there, rfl⟩ := Option.map_eq_some_iff.mp found
  have takes := prompt.links before (List.mem_iff_getElem?.mpr ⟨index, there⟩)
  split
  · rw [same]
    exact takes
  · exact takes

theorem close_lasts (socket : Socket) : socket.close.Lasts 0 :=
  update_lasts _ socket fun _ => rfl

/-- Uses of one side of the socket wait so long at most. -/
def Bounded (socket : Socket) (side : Link → Option Duration) (limit : Duration) (world : World) :
    Prop :=
  ∀ link, world.links[socket.id]? = some link → side link = some limit

/-- What is waited for, within the limit, is noted on the link. -/
private theorem noted_lasts {γ : Type} {time : Duration}
    (within : time.nanoseconds ≤ limit.nanoseconds)
    {note : Dial γ} (notes : note.Lasts 0) :
    (modify (World.wait time) >>= fun _ => note : Dial γ).Lasts limit.nanoseconds := by
  refine Dial.lasts_then (Dial.lasts_of_run fun world => ⟨(), _, rfl, rfl, fun prompt => ?_⟩)
    fun _ => notes
  exact ⟨prompt.wait time, Nat.add_le_add_left within world.now.nanoseconds⟩

/-- A read that arrives is noted on the link. -/
private theorem receive_noted (limit : Duration) (size : Nat) (arrival : Arrival)
    (change : Bytes → Link → Link) (socket : Socket)
    (same : ∀ bytes link, (change bytes link).peer = link.peer) : Dial.Lasts (do
      let result ← receive (some limit) size arrival
      if let .ok bytes := result then socket.update (change bytes)
      return result) limit.nanoseconds := by
  refine Dial.lasts_then (noted_lasts (arrival.meets_le limit size) Dial.lasts_pure) ?_
  intro result
  cases result with
  | error fault => exact Dial.lasts_pure
  | ok bytes => exact Dial.lasts_then (update_lasts _ socket (same bytes)) fun _ => Dial.lasts_pure

theorem read_spent (bounded : socket.Bounded Link.readLimit limit world) (size : Nat) :
    (socket.read size).Ensures world (Dial.Spent limit.nanoseconds world) := by
  apply Dial.ensures_bind_of_eq (Dial.get_run world)
  cases here : world.links[socket.id]? with
  | none => exact Dial.lasts_pure.mono (Nat.zero_le _) world
  | some link =>
      dsimp only
      split
      · exact Dial.lasts_pure.mono (Nat.zero_le _) world
      · rw [bounded link here]
        exact receive_noted limit size _
          (fun bytes other => { other with received := link.received + bytes.length }) socket
          (fun _ _ => rfl) world

theorem readProtected_spent (bounded : socket.Bounded Link.readLimit limit world) (size : Nat) :
    (socket.readProtected size).Ensures world (Dial.Spent limit.nanoseconds world) := by
  apply Dial.ensures_bind_of_eq (Dial.get_run world)
  cases here : world.links[socket.id]? with
  | none => exact Dial.lasts_pure.mono (Nat.zero_le _) world
  | some link =>
      dsimp only
      cases link.tls with
      | none => exact Dial.lasts_pure.mono (Nat.zero_le _) world
      | some protection =>
          dsimp only
          split
          · exact Dial.lasts_pure.mono (Nat.zero_le _) world
          · rw [bounded link here]
            exact receive_noted limit size _ (fun bytes other => { other with
              tls := some (protection.1, protection.2.1, protection.2.2 + bytes.length) }) socket
              (fun _ _ => rfl) world

private theorem pour_spent (flow : Outflow) (note : Bytes → Link → Link) (socket : Socket)
    (same : ∀ sent link, (note sent link).peer = link.peer)
    (within : world.Prompt → flow.time.nanoseconds ≤ limit.nanoseconds) :
    (socket.pour flow note).Ensures world (Dial.Spent limit.nanoseconds world) := by
  have notes : (do
      socket.update (note flow.sent)
      return flow.result : Dial (Except Fault Unit)).Lasts 0 :=
    Dial.lasts_then (update_lasts _ socket (same flow.sent)) fun _ => Dial.lasts_pure
  refine Dial.ensures_bind_of_eq rfl ((notes _).mono fun result behind later => ?_)
  refine ⟨later.inRange, later.resolver, fun prompt => ?_⟩
  obtain ⟨stays, most⟩ := later.clock (prompt.wait flow.time)
  have waits : (world.wait flow.time).now.nanoseconds =
    world.now.nanoseconds + flow.time.nanoseconds := rfl
  have inTime := within prompt
  exact ⟨stays, by omega⟩

/-- What a prompt peer does not take at once is waited for within the limit. -/
theorem write_spent (bounded : socket.Bounded Link.writeLimit limit world) (bytes : Bytes) :
    (socket.write bytes).Ensures world (Dial.Spent limit.nanoseconds world) := by
  apply Dial.ensures_bind_of_eq (Dial.get_run world)
  cases here : world.links[socket.id]? with
  | none => exact Dial.lasts_pure.mono (Nat.zero_le _) world
  | some link =>
      dsimp only
      split
      · exact Dial.lasts_pure.mono (Nat.zero_le _) world
      · rw [bounded link here]
        refine pour_spent _ _ socket (fun _ _ => rfl) ?_
        intro prompt
        have takes := prompt.links link (List.mem_of_getElem? here)
        exact takes.outflow_time_le limit _ 0 bytes _

theorem writeProtected_spent (bounded : socket.Bounded Link.writeLimit limit world)
    (bytes : Bytes) :
    (socket.writeProtected bytes).Ensures world (Dial.Spent limit.nanoseconds world) := by
  apply Dial.ensures_bind_of_eq (Dial.get_run world)
  cases here : world.links[socket.id]? with
  | none => exact Dial.lasts_pure.mono (Nat.zero_le _) world
  | some link =>
      dsimp only
      cases link.tls with
      | none => exact Dial.lasts_pure.mono (Nat.zero_le _) world
      | some protection =>
          dsimp only
          split
          · exact Dial.lasts_pure.mono (Nat.zero_le _) world
          · rw [bounded link here]
            refine pour_spent _ _ socket (fun _ _ => rfl) ?_
            intro prompt
            have takes := prompt.links link (List.mem_of_getElem? here)
            exact takes.outflow_time_le limit _ 0 bytes _

/-- A change of the link that sets the limit, or keeps it. -/
theorem update_bounded (change : Link → Link) (socket : Socket) (sets : ∀ link,
    world.links[socket.id]? = some link → side (change link) = some limit) :
    (socket.update change).Ensures world fun _ behind => socket.Bounded side limit behind := by
  intro link here
  change (world.links.modify socket.id change)[socket.id]? = some link at here
  rw [List.getElem?_modify_eq] at here
  obtain ⟨before, there, rfl⟩ := Option.map_eq_some_iff.mp here
  exact sets before there

end Socket

namespace Dial

variable {α β γ : Type} {options : DialOptions} {deadline : Instant}

/-- A step that draws its time from the budget. -/
theorem endsBy_budget {next : Duration → Dial β} (has : options.deadline = some deadline)
    (lasts : ∀ left, (next left).Lasts left.nanoseconds) :
    (budget options >>= next).EndsBy deadline := by
  intro world
  have before := (lasts_look .draws options world).of_run (look_run .draws options world)
  apply Socket.ensures_budget
  · intro error _
    exact ⟨nofun, before.resolver, (before.mono (Nat.zero_le _)).clock⟩
  · intro left budget
    rw [DialOptions.budget_of_deadline has budget]
    exact (lasts _ _).mono fun result behind later => before.after later fun clock => by omega

theorem endsBy_budget_then {next : Duration → Dial α} {more : α → Dial β}
    (has : options.deadline = some deadline) (lasts : ∀ left, (next left).Lasts left.nanoseconds)
    (rest : ∀ value, (more value).EndsBy deadline) :
    (budget options >>= fun left => next left >>= more).EndsBy deadline := by
  rw [← bind_assoc]
  exact endsBy_bind (endsBy_budget has lasts) rest

/-- A use of a socket that is made right behind the setting of its limit. -/
theorem lasts_bounded {set : Dial Unit} {use : Dial γ} {limit : Duration} (socket : Socket)
    (side : Link → Option Duration) (still : set.Lasts 0)
    (sets : ∀ world, set.Ensures world fun _ behind => socket.Bounded side limit behind)
    (uses : ∀ world, socket.Bounded side limit world →
      use.Ensures world (Spent limit.nanoseconds world)) :
    (set >>= fun _ => use).Lasts limit.nanoseconds := by
  intro world
  refine ensures_spent_bind (still world) (Nat.zero_le _) ?_
  intro done middle run
  have before := (still world).of_run run
  have bounded := (sets world).of_run run
  exact (uses middle bounded).mono fun result behind later =>
    before.after later fun clock => by omega

/-- The step of every handshake: what is left of the budget limits a read or a write. -/
theorem endsBy_timed {set : Duration → Dial Unit} {use : Dial α} {more : α → Dial β}
    (has : options.deadline = some deadline)
    (lasts : ∀ limit, (set limit >>= fun _ => use).Lasts limit.nanoseconds)
    (rest : ∀ value, (more value).EndsBy deadline) :
    (budget options >>= fun limit => set limit >>= fun _ => use >>= more).EndsBy deadline := by
  have together : (budget options >>= fun limit => set limit >>= fun _ => use >>= more) =
      budget options >>= fun limit => (set limit >>= fun _ => use) >>= more := by
    simp only [bind_assoc]
  rw [together]
  exact endsBy_budget_then has lasts rest

end Dial

/-! Reads and writes behind the setting of their limit, on each sort of stream. -/

namespace Socket

theorem timed_read_lasts (size : Nat) (socket : Socket) (limit : Duration) :
    (socket.setReadLimit (some limit) >>= fun _ => socket.read size).Lasts limit.nanoseconds :=
  Dial.lasts_bounded socket Link.readLimit (socket.update_lasts _ fun _ => rfl)
    (fun _ => update_bounded _ socket fun _ _ => rfl) fun _ bounded => read_spent bounded size

theorem timed_write_lasts (bytes : Bytes) (socket : Socket) (limit : Duration) :
    (socket.setWriteLimit (some limit) >>= fun _ => socket.write bytes).Lasts limit.nanoseconds :=
  Dial.lasts_bounded socket Link.writeLimit (socket.update_lasts _ fun _ => rfl)
    (fun _ => update_bounded _ socket fun _ _ => rfl) fun _ bounded => write_spent bounded bytes

end Socket

namespace RawStream

theorem setLimit_lasts (limit : Option Duration) (raw : RawStream) : (raw.setLimit limit).Lasts 0 :=
  Dial.lasts_then (raw.socket.update_lasts _ fun _ => rfl)
    fun _ => raw.socket.update_lasts _ fun _ => rfl

theorem setLimit_reads (limit : Duration) (raw : RawStream) (world : World) :
    (raw.setLimit (some limit)).Ensures world fun _ behind =>
      raw.socket.Bounded Link.readLimit limit behind := by
  have reading : (raw.socket.setReadLimit (some limit)).Ensures world fun result behind =>
      result = .ok () ∧ raw.socket.Bounded Link.readLimit limit behind :=
    ⟨rfl, Socket.update_bounded _ raw.socket fun _ _ => rfl⟩
  apply Dial.ensures_bind
  refine reading.mono ?_
  rintro result middle ⟨rfl, bounded⟩
  exact Socket.update_bounded _ raw.socket bounded

theorem setLimit_writes (limit : Duration) (raw : RawStream) (world : World) :
    (raw.setLimit (some limit)).Ensures world fun _ behind =>
      raw.socket.Bounded Link.writeLimit limit behind :=
  Dial.ensures_bind_of_eq rfl (Socket.update_bounded _ raw.socket fun _ _ => rfl)

theorem read_spent {raw : RawStream} {limit : Duration} {world : World}
    (bounded : raw.socket.Bounded Link.readLimit limit world) (size : Nat) :
    (raw.read size).Ensures world (Dial.Spent limit.nanoseconds world) := by
  cases raw with
  | direct socket =>
      exact Dial.ensures_spent_then (Socket.read_spent bounded size) fun _ => Dial.lasts_pure
  | tunneled stream =>
      refine Dial.ensures_spent_then ?_ fun _ => Dial.lasts_pure
      unfold Rewind.read
      split
      · refine Dial.ensures_spent_then ?_ fun _ => Dial.lasts_pure
        exact Dial.ensures_spent_then (Socket.read_spent bounded size) fun _ => Dial.lasts_pure
      · exact Dial.lasts_pure.mono (Nat.zero_le _) world

theorem timed_read_lasts (size : Nat) (raw : RawStream) (limit : Duration) :
    (raw.setLimit (some limit) >>= fun _ => raw.read size).Lasts limit.nanoseconds :=
  Dial.lasts_bounded raw.socket Link.readLimit (raw.setLimit_lasts _) (raw.setLimit_reads limit)
    fun _ bounded => read_spent bounded size

theorem timed_write_lasts (bytes : Bytes) (raw : RawStream) (limit : Duration) :
    (raw.setLimit (some limit) >>= fun _ => raw.socket.write bytes).Lasts limit.nanoseconds :=
  Dial.lasts_bounded raw.socket Link.writeLimit (raw.setLimit_lasts _) (raw.setLimit_writes limit)
    fun _ bounded => Socket.write_spent bounded bytes

end RawStream

namespace Connection

theorem setLimit_lasts (limit : Option Duration) (connection : Connection) :
    (connection.setLimit limit).Lasts 0 :=
  connection.transport.raw.setLimit_lasts limit

theorem write_spent {connection : Connection} {limit : Duration} {world : World}
    (bounded : connection.transport.raw.socket.Bounded Link.writeLimit limit world)
    (bytes : Bytes) :
    (connection.write bytes).Ensures world (Dial.Spent limit.nanoseconds world) := by
  unfold write
  cases transport : connection.transport with
  | plain raw =>
      rw [transport] at bounded
      exact Socket.write_spent bounded bytes
  | tls raw session =>
      rw [transport] at bounded
      exact Socket.writeProtected_spent bounded bytes

theorem read_spent {connection : Connection} {limit : Duration} {world : World}
    (bounded : connection.transport.raw.socket.Bounded Link.readLimit limit world) (size : Nat) :
    (connection.read size).Ensures world (Dial.Spent limit.nanoseconds world) := by
  unfold read
  cases transport : connection.transport with
  | plain raw =>
      rw [transport] at bounded
      exact Dial.ensures_spent_then (RawStream.read_spent bounded size) fun _ => Dial.lasts_pure
  | tls raw session =>
      rw [transport] at bounded
      dsimp only
      cases session.pending with
      | some alert => exact Dial.lasts_pure.mono (Nat.zero_le _) world
      | none =>
          exact Dial.ensures_spent_then (Socket.readProtected_spent bounded size)
            fun _ => Dial.lasts_pure

theorem timed_read_lasts (size : Nat) (connection : Connection) (limit : Duration) :
    (connection.setLimit (some limit) >>= fun _ => connection.read size).Lasts limit.nanoseconds :=
  Dial.lasts_bounded connection.transport.raw.socket Link.readLimit (connection.setLimit_lasts _)
    (connection.transport.raw.setLimit_reads limit) fun _ bounded => read_spent bounded size

theorem timed_write_lasts (bytes : Bytes) (connection : Connection) (limit : Duration) :
    (connection.setLimit (some limit) >>= fun _ => connection.write bytes).Lasts
      limit.nanoseconds :=
  Dial.lasts_bounded connection.transport.raw.socket Link.writeLimit (connection.setLimit_lasts _)
    (connection.transport.raw.setLimit_writes limit) fun _ bounded => write_spent bounded bytes

end Connection

/-! Connecting takes time as well. -/

namespace Socket

theorem connect_lasts (address : SocketAddress) (limit : Duration) :
    (connect address limit).Lasts limit.nanoseconds := by
  intro world
  have run := connect_run address limit world
  have most := (world.network (world.attemptCount address) address).meets_le limit
  cases met : (world.network (world.attemptCount address) address).meets limit with
  | mk outcome time =>
      rw [met] at run most
      have attempted (prompt : world.Prompt) : (world.attempted address time).Prompt :=
        ⟨prompt.pauses, prompt.lookups, prompt.network, prompt.links⟩
      have clock : (world.attempted address time).now.nanoseconds ≤
          world.now.nanoseconds + limit.nanoseconds := Nat.add_le_add_left most _
      cases outcome with
      | error fault =>
          exact Dial.ensures_of_eq run ⟨nofun, rfl, fun prompt => ⟨attempted prompt, clock⟩⟩
      | ok peer =>
          refine Dial.ensures_of_eq run ⟨nofun, rfl, fun prompt => ⟨?_, clock⟩⟩
          refine ⟨prompt.pauses, prompt.lookups, prompt.network, ?_⟩
          intro link member
          rcases List.mem_append.mp member with old | new
          · exact prompt.links link old
          · rw [List.mem_singleton.mp new]
            exact prompt.network _ _ _ _ (Reception.meets_ok met)

end Socket

section
variable {options : DialOptions} {deadline : Instant}

theorem connectFirst_endsBy (has : options.deadline = some deadline) (last : Option Fault)
    (addresses : List SocketAddress) :
    (connectFirst options last addresses).EndsBy deadline := by
  induction addresses generalizing last with
  | nil =>
      cases last with
      | none => exact Dial.endsBy_of_lasts Dial.lasts_fail deadline
      | some fault => exact Dial.endsBy_of_lasts Dial.lasts_fail deadline
  | cons address rest ih =>
      have goesOn : (connectFirst options none (address :: rest)).EndsBy deadline := by
        refine Dial.endsBy_budget_then has (Socket.connect_lasts address) ?_
        intro outcome
        cases outcome with
        | error fault => exact ih (some fault)
        | ok socket =>
            apply Dial.endsBy_of_lasts
            dsimp only
            split
            · exact Dial.lasts_then (socket.update_lasts _ fun _ => rfl) fun _ => Dial.lasts_pure
            · exact Dial.lasts_pure
      cases last with
      | none => exact goesOn
      | some fault => exact goesOn

theorem connectAny_budgeted (addresses : List SocketAddress) :
    Dial.Budgeted (connectAny addresses) :=
  Dial.budgeted_of_started fun has => connectFirst_endsBy has none addresses

theorem systemAddresses_lasts (host : List Char) : (systemAddresses host).Lasts 0 := by
  unfold systemAddresses
  split
  · exact Dial.lasts_pure
  · split
    · exact Dial.lasts_pure
    · refine Dial.lasts_then (Dial.lasts_awaitLookup _) fun _ => ?_
      exact Dial.lasts_get fun world => Dial.lasts_pure

theorem addressesOf_lasts (address : String) : (addressesOf address).Lasts 0 := by
  unfold addressesOf
  dsimp only
  split
  · exact Dial.lasts_pure
  · exact Dial.lasts_pure
  · split
    · exact Dial.lasts_pure
    · exact Dial.lasts_then (systemAddresses_lasts _) fun _ => Dial.lasts_pure

theorem connectTo_budgeted (address : String) : Dial.Budgeted (connectTo address) := by
  apply Dial.budgeted_of_started
  intro options deadline has
  refine Dial.endsBy_bind (Dial.endsBy_of_lasts (addressesOf_lasts address) deadline) ?_
  intro outcome
  split
  · exact Dial.endsBy_of_lasts Dial.lasts_fail deadline
  · exact Dial.endsBy_of_lasts Dial.lasts_fail deadline
  · exact (connectAny_budgeted _).endsBy has

end

end ProxyDial
