import ProxyDial.Proofs.Net.Ending
import ProxyDial.Proofs.Net.Tunnel

set_option autoImplicit false

/-! Tunnels that break off. Bytes that were held back are read first; then the tunnel ends as the
stream of its socket does. -/

namespace ProxyDial
open Text

section
variable {ending : Ending} {options : DialOptions} {fresh : Bytes} {world : World} {link : Link}
  {left : Duration} {drawn : Instant} {size : Nat}

private theorem read_inner {socket : Socket} (awaits : socket.Awaits ending options fresh world)
    (here : world.links[socket.id]? = some link) (limited : link.readLimit = some left)
    (budget : options.budget drawn = .ok left)
    (past : drawn.nanoseconds ≤ world.now.nanoseconds) (positive : 0 < size) {raw : RawStream}
    (leads : raw.socket = socket) (empty : raw.held = [])
    (reads : ∀ outcome behind, socket.read size world = (.ok outcome, behind) →
      raw.read size world = (.ok (outcome, raw), behind)) :
    ∃ outcome next behind, raw.read size world = (.ok (outcome, next), behind) ∧
      ending.Meets (raw.held ++ fresh) size (fun rest => ∃ fresh, rest = next.held ++ fresh ∧
        next.socket.Awaits ending options fresh behind) outcome := by
  subst leads
  obtain ⟨outcome, behind, run, met⟩ := awaits.read here limited budget past positive
  refine ⟨outcome, raw, behind, reads outcome behind run, ?_⟩
  rw [empty, List.nil_append]
  exact met.mono fun rest further => ⟨rest, rfl, further⟩

/-- A read gives what is held back while there is any, and meets what the socket does else. -/
theorem Socket.Awaits.read_raw {raw : RawStream}
    (awaits : raw.socket.Awaits ending options fresh world)
    (here : world.links[raw.socket.id]? = some link) (limited : link.readLimit = some left)
    (budget : options.budget drawn = .ok left)
    (past : drawn.nanoseconds ≤ world.now.nanoseconds) (positive : 0 < size) :
    ∃ outcome next behind, raw.read size world = (.ok (outcome, next), behind) ∧
      ending.Meets (raw.held ++ fresh) size (fun rest => ∃ fresh, rest = next.held ++ fresh ∧
        next.socket.Awaits ending options fresh behind) outcome := by
  cases raw with
  | direct socket =>
      apply read_inner awaits here limited budget past positive rfl rfl
      intro outcome behind run
      simp only [RawStream.read, Dial.bind_run]
      rw [RawStream.socket] at run
      rw [run]
      rfl
  | tunneled stream =>
      obtain ⟨held, socket⟩ := stream
      by_cases empty : held = []
      · subst empty
        apply read_inner awaits here limited budget past positive rfl rfl
        intro outcome behind run
        exact tunneled_read_inner run
      · have someBytes : held.take size ≠ [] := take_ne_nil positive empty
        have parts : held ++ fresh = held.take size ++ (held.drop size ++ fresh) := by
          rw [← List.append_assoc, List.take_append_drop]
        exact ⟨_, _, world, tunneled_read_held size empty,
          .part parts someBytes (List.length_take_le size held) ⟨fresh, rfl, awaits⟩⟩

end

namespace Connection

/-- So much is still to be read over a plain connection before its peer ends. Some of it may be held
back. -/
structure Awaits (connection : Connection) (ending : Ending) (options : DialOptions)
    (unread : Bytes) (world : World) : Prop where
  plain : connection.isTls = false
  awaits : ∃ fresh, unread = connection.transport.raw.held ++ fresh ∧
    connection.socket.Awaits ending options fresh world

namespace Awaits

variable {connection : Connection} {ending : Ending} {options : DialOptions} {unread : Bytes}
  {world : World} {β : Type} {post : Except Abort β → World → Prop}

theorem of_links {behind : World} (awaits : connection.Awaits ending options unread world)
    (links : behind.links = world.links) (later : world.Later ⟨0⟩ behind) :
    connection.Awaits ending options unread behind := by
  obtain ⟨plain, fresh, split, awaits⟩ := awaits
  exact ⟨plain, fresh, split, awaits.of_links links later⟩

theorem looked (awaits : connection.Awaits ending options unread world) (kind : Ask.Kind)
    (other : DialOptions) : connection.Awaits ending options unread (world.looked kind other) := by
  obtain ⟨plain, fresh, split, awaits⟩ := awaits
  exact ⟨plain, fresh, split, awaits.looked kind other⟩

theorem setLimit (awaits : connection.Awaits ending options unread world) (left : Duration) :
    ∃ link behind, connection.setLimit (some left) world = (.ok (), behind) ∧
      behind.links[connection.socket.id]? = some link ∧ link.readLimit = some left ∧
      link.writeLimit = some left ∧ connection.Awaits ending options unread behind ∧
      world.Later ⟨0⟩ behind := by
  obtain ⟨plain, fresh, split, awaits⟩ := awaits
  obtain ⟨link, middle, readRun, -, here, awaits, same⟩ :=
    awaits.update ({ · with readLimit := some left }) fun _ => ⟨rfl, rfl, rfl, rfl⟩
  obtain ⟨link', behind, writeRun, here', there, awaits, later⟩ :=
    awaits.update ({ · with writeLimit := some left }) fun _ => ⟨rfl, rfl, rfl, rfl⟩
  rw [here] at here'
  cases here'
  have run : connection.setLimit (some left) world = (.ok (), behind) := by
    change (connection.socket.setReadLimit (some left) >>= fun _ =>
      connection.socket.setWriteLimit (some left)) world = _
    rw [Dial.bind_run, Socket.setReadLimit, readRun]
    exact writeRun
  exact ⟨_, behind, run, there, rfl, rfl, ⟨plain, fresh, split, awaits⟩,
    later.behind_update same⟩

theorem write (awaits : connection.Awaits ending options unread world) {link : Link}
    {left : Duration} (here : world.links[connection.socket.id]? = some link)
    (limited : link.writeLimit = some left) (positive : 0 < left.nanoseconds) (packet : Bytes) :
    ∃ behind, connection.write packet world = (.ok (.ok ()), behind) ∧
      connection.Awaits ending options unread behind := by
  obtain ⟨transport, address⟩ := connection
  cases transport with
  | tls raw session => cases awaits.plain
  | plain raw =>
      obtain ⟨plain, fresh, split, awaits⟩ := awaits
      obtain ⟨behind, run, awaits⟩ := awaits.write here limited positive packet
      exact ⟨behind, run, plain, fresh, split, awaits⟩

theorem read (awaits : connection.Awaits ending options unread world) {link : Link}
    {left : Duration} {drawn : Instant} (here : world.links[connection.socket.id]? = some link)
    (limited : link.readLimit = some left) (budget : options.budget drawn = .ok left)
    (past : drawn.nanoseconds ≤ world.now.nanoseconds) {size : Nat} (positive : 0 < size) :
    ∃ outcome next behind, connection.read size world = (.ok (outcome, next), behind) ∧
      ending.Meets unread size (next.Awaits ending options · behind) outcome := by
  obtain ⟨transport, address⟩ := connection
  cases transport with
  | tls raw session => cases awaits.plain
  | plain raw =>
      obtain ⟨-, fresh, split, awaits⟩ := awaits
      have reads : raw.socket.Awaits ending options fresh world := awaits
      obtain ⟨outcome, next, behind, run, met⟩ := reads.read_raw here limited budget past positive
      subst split
      have whole : Connection.read size ⟨.plain raw, address⟩ world =
          (.ok (outcome, ⟨.plain next, address⟩), behind) := by
        simp only [Connection.read, Dial.bind_run, run]
        rfl
      exact ⟨outcome, ⟨.plain next, address⟩, behind, whole,
        met.mono fun rest further => ⟨rfl, further⟩⟩

theorem ensures_budget {next : Duration → Dial β}
    (awaits : connection.Awaits ending options unread world)
    (expired : ∀ error, error.kind = ending.kind →
      post (.error (.failed error)) (world.looked .draws options))
    (left : ∀ left, options.budget world.now = .ok left →
      (next left).Ensures (world.looked .draws options) post) :
    Dial.Ensures (Dial.budget options >>= next) world post := by
  obtain ⟨plain, fresh, split, awaits⟩ := awaits
  exact awaits.ensures_budget expired left

/-- A packet that is sent within the budget. -/
theorem ensures_say {packet : Bytes} {next : Except Fault Unit → Dial β}
    (awaits : connection.Awaits ending options unread world)
    (expired : ∀ error, error.kind = ending.kind →
      post (.error (.failed error)) (world.looked .draws options))
    (said : ∀ behind, connection.Awaits ending options unread behind →
      (next (.ok ())).Ensures behind post) :
    Dial.Ensures (do
      connection.setLimit (some (← Dial.budget options))
      next (← connection.write packet)) world post := by
  apply awaits.ensures_budget expired
  intro left budget
  obtain ⟨link, limited, limitRun, here, -, same, awaits, -⟩ :=
    (awaits.looked .draws options).setLimit left
  apply Dial.ensures_bind_of_eq limitRun
  obtain ⟨behind, run, awaits⟩ :=
    awaits.write here same (DialOptions.budget_pos budget) packet
  exact Dial.ensures_bind_of_eq run (said behind awaits)

/-- A read that may take what is left of the budget. -/
theorem ensures_hear {size : Nat} {next : Except Fault Bytes × Connection → Dial β}
    (positive : 0 < size) (awaits : connection.Awaits ending options unread world)
    (expired : ∀ error, error.kind = ending.kind →
      post (.error (.failed error)) (world.looked .draws options))
    (meets : ∀ outcome left behind,
      ending.Meets unread size (left.Awaits ending options · behind) outcome →
        (next (outcome, left)).Ensures behind post) :
    Dial.Ensures (do
      connection.setLimit (some (← Dial.budget options))
      next (← connection.read size)) world post := by
  apply awaits.ensures_budget expired
  intro left budget
  obtain ⟨link, limited, limitRun, here, same, -, awaits, later⟩ :=
    (awaits.looked .draws options).setLimit left
  apply Dial.ensures_bind_of_eq limitRun
  have past := World.le_looked_update .draws options later
  obtain ⟨outcome, next, behind, run, met⟩ := awaits.read here same budget past positive
  exact Dial.ensures_bind_of_eq run (meets outcome next behind met)

end Awaits

end Connection

end ProxyDial
