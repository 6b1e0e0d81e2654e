import ProxyDial.Proofs.Dial.Deadline
import ProxyDial.Proofs.Dial.Outcome
import ProxyDial.Proofs.Net.Outflow

set_option autoImplicit false

/-! The steps of a talk with a peer: what one read or write does to a link, when it fails, and how
much time it takes. Every handshake consists of these steps. -/

namespace ProxyDial
open Text

/-- The time after a while. -/
def Instant.later (now : Instant) (duration : Duration) : Instant :=
  ⟨now.nanoseconds + duration.nanoseconds⟩

/-- So much later, with no look at the clock in between. -/
structure World.Later (world : World) (delay : Duration) (behind : World) : Prop where
  now : behind.now = world.now.later delay
  watch : behind.watch = world.watch

theorem World.Later.behind_update {world middle behind : World} {delay : Duration}
    (later : middle.Later delay behind) (same : world.Later ⟨0⟩ middle) :
    world.Later delay behind :=
  ⟨later.now.trans (congrArg (·.later delay) same.now), later.watch.trans same.watch⟩

/-- The clock never goes back. -/
theorem World.le_looked (kind : Ask.Kind) (options : DialOptions) (world : World) :
    world.now.nanoseconds ≤ (world.looked kind options).now.nanoseconds :=
  Nat.le_add_right _ _

theorem World.le_looked_update {world behind : World} (kind : Ask.Kind) (options : DialOptions)
    (later : (world.looked kind options).Later ⟨0⟩ behind) :
    world.now.nanoseconds ≤ behind.now.nanoseconds := by
  rw [later.now]
  exact world.le_looked kind options

namespace Socket

theorem receive_run (limit : Option Duration) (size : Nat) (arrival : Arrival) (world : World) :
    receive limit size arrival world =
      (.ok (arrival.meets limit size).1, world.wait (arrival.meets limit size).2) :=
  rfl

end Socket

/-- A link after a read. -/
def Link.hear (result : Except Fault Bytes) (link : Link) : Link :=
  match result with
  | .ok bytes => { link with received := link.received + bytes.length }
  | .error _ => link

namespace Socket

variable {socket : Socket} {world : World} {link : Link}

theorem update_run (change : Link → Link) (here : world.links[socket.id]? = some link) :
    ∃ behind, socket.update change world = (.ok (), behind) ∧
      behind.links[socket.id]? = some (change link) ∧ world.Later ⟨0⟩ behind := by
  refine ⟨_, rfl, ?_, rfl, rfl⟩
  simp [here]

theorem read_run (here : world.links[socket.id]? = some link) (isOpen : link.isOpen = true)
    {size : Nat} (positive : 0 < size) :
    ∃ behind, socket.read size world =
        (.ok ((link.peer.next link.sent link.received).meets link.readLimit size).1, behind) ∧
      behind.links[socket.id]? =
        some (link.hear ((link.peer.next link.sent link.received).meets link.readLimit size).1) ∧
      world.Later ((link.peer.next link.sent link.received).meets link.readLimit size).2
        behind := by
  have busy : (!link.isOpen || decide (size = 0)) = false := by
    rw [isOpen]
    simpa using Nat.ne_of_gt positive
  simp only [Socket.read, Dial.bind_run, Dial.get_run, here, busy, Bool.false_eq_true, if_false,
    receive_run]
  cases (link.peer.next link.sent link.received).meets link.readLimit size with
  | mk result delay =>
      cases result with
      | error fault => exact ⟨_, rfl, here, rfl, rfl⟩
      | ok bytes =>
          have waits : (world.wait delay).links[socket.id]? = some link := here
          obtain ⟨behind, run, there, now, watch⟩ := update_run
            (fun other => { other with received := link.received + bytes.length }) waits
          refine ⟨behind, ?_, there, now, watch⟩
          simp only [Dial.bind_run, run]
          rfl

/-- A write sends what the peer takes, and waits for it. -/
theorem write_run (here : world.links[socket.id]? = some link) (isOpen : link.isOpen = true)
    (bytes : Bytes) {flow : Outflow}
    (flows : link.peer.outflow link.writeLimit link.received 0 bytes link.sent = flow) :
    ∃ behind, socket.write bytes world = (.ok flow.result, behind) ∧
      behind.links[socket.id]? = some { link with sent := flow.sent } ∧
      world.Later flow.time behind := by
  have busy : (!link.isOpen) = false := by
    rw [isOpen]
    rfl
  simp only [Socket.write, Dial.bind_run, Dial.get_run, here, busy, Bool.false_eq_true, if_false,
    flows]
  have waits : (world.wait flow.time).links[socket.id]? = some link := here
  obtain ⟨behind, run, there, now, watch⟩ := update_run
    (fun other => { other with sent := flow.sent }) waits
  refine ⟨behind, ?_, there, now, watch⟩
  change (socket.update _ >>= fun _ => _) (world.wait flow.time) = _
  rw [Dial.bind_run, run]

/-- An attempt to connect is noted, and takes its time. Where it is accepted, there is a connection
behind all others. -/
theorem connect_run (address : SocketAddress) (limit : Duration) (world : World) :
    connect address limit world =
      match (world.network (world.attemptCount address) address).meets limit with
      | (.error fault, time) => (.ok (.error fault), world.attempted address time)
      | (.ok peer, time) => (.ok (.ok ⟨world.links.length⟩),
          { world.attempted address time with
            links := world.links ++ [⟨address, peer, [], 0, true, false, none, none, none⟩] }) := by
  unfold connect
  rw [Dial.bind_run, Dial.get_run]
  dsimp only
  cases (world.network (world.attemptCount address) address).meets limit with
  | mk result time => cases result <;> rfl

/-- The socket is open towards a peer, with so much sent to it and received from it. -/
def Talks (socket : Socket) (peer : Peer) (sent : Bytes) (received : Nat) (world : World) : Prop :=
  ∃ link, world.links[socket.id]? = some link ∧ link.isOpen = true ∧ link.peer = peer ∧
    link.sent = sent ∧ link.received = received

variable {peer : Peer} {sent : Bytes} {received : Nat} {options : DialOptions} {β : Type}
  {post : Except Abort β → World → Prop}

/-- A bound for later reads or writes says nothing to the peer. -/
theorem Talks.update (change : Link → Link) (talks : socket.Talks peer sent received world)
    (quiet : ∀ link, (change link).isOpen = link.isOpen ∧ (change link).peer = link.peer ∧
      (change link).sent = link.sent ∧ (change link).received = link.received) :
    ∃ behind, socket.update change world = (.ok (), behind) ∧
      socket.Talks peer sent received behind ∧ world.Later ⟨0⟩ behind := by
  obtain ⟨link, here, isOpen, samePeer, sameSent, sameReceived⟩ := talks
  obtain ⟨behind, run, there, later⟩ := update_run change here
  obtain ⟨keepsOpen, keepsPeer, keepsSent, keepsReceived⟩ := quiet link
  exact ⟨behind, run, ⟨_, there, keepsOpen.trans isOpen, keepsPeer.trans samePeer,
    keepsSent.trans sameSent, keepsReceived.trans sameReceived⟩, later⟩

/-- Nor does a look at the clock. -/
theorem Talks.looked (talks : socket.Talks peer sent received world) (kind : Ask.Kind)
    (options : DialOptions) : socket.Talks peer sent received (world.looked kind options) :=
  talks

/-- A handshake that is over lets later reads and writes take any time. -/
theorem Talks.ensures_unlimited {value : β} (talks : socket.Talks peer sent received world)
    (holds : ∀ behind, socket.Talks peer sent received behind → post (.ok value) behind) :
    Dial.Ensures (do
      socket.setReadLimit none
      socket.setWriteLimit none
      return value) world post := by
  obtain ⟨unread, readRun, talksUnread, -⟩ :=
    talks.update ({ · with readLimit := none }) fun _ => ⟨rfl, rfl, rfl, rfl⟩
  obtain ⟨unbound, writeRun, talksUnbound, -⟩ :=
    talksUnread.update ({ · with writeLimit := none }) fun _ => ⟨rfl, rfl, rfl, rfl⟩
  apply Dial.ensures_bind_of_eq readRun
  apply Dial.ensures_bind_of_eq writeRun
  exact Dial.ensures_pure (holds unbound talksUnbound)

/-- A step that draws its time from the budget fails at once when there is none left. -/
theorem ensures_budget {next : Duration → Dial β}
    (expired : ∀ error, options.budget world.now = .error error →
      post (.error (.failed error)) (world.looked .draws options))
    (left : ∀ left, options.budget world.now = .ok left →
      (next left).Ensures (world.looked .draws options) post) :
    Dial.Ensures (Dial.budget options >>= next) world post := by
  cases budget : options.budget world.now with
  | error error =>
      have run : Dial.budget options world =
          (.error (.failed error), world.looked .draws options) := by
        rw [Dial.budget_run, budget]
        rfl
      exact Dial.ensures_bind (Dial.ensures_of_eq run (expired error budget))
  | ok duration =>
      have run : Dial.budget options world = (.ok duration, world.looked .draws options) := by
        rw [Dial.budget_run, budget]
        rfl
      exact Dial.ensures_bind_of_eq run (left duration budget)

/-- A packet that is sent within the budget. Where the peer does not take all of it, a beginning has
been sent. -/
theorem ensures_say {packet : Bytes} {next : Except Fault Unit → Dial β}
    (talks : socket.Talks peer sent received world)
    (expired : ∀ error, options.budget world.now = .error error →
      post (.error (.failed error)) (world.looked .draws options))
    (broken : ∀ left fault part time behind, options.budget world.now = .ok left →
      peer.outflow (some left) received 0 packet sent = ⟨sent ++ part, .error fault, time⟩ →
      peer.BreaksOff (some left) received packet sent fault part →
      socket.Talks peer (sent ++ part) received behind → (next (.error fault)).Ensures behind post)
    (said : ∀ left time behind, options.budget world.now = .ok left →
      peer.outflow (some left) received 0 packet sent = ⟨sent ++ packet, .ok (), time⟩ →
      socket.Talks peer (sent ++ packet) received behind →
      (world.looked .draws options).Later time behind → (next (.ok ())).Ensures behind post) :
    Dial.Ensures (do
      socket.setWriteLimit (some (← Dial.budget options))
      next (← socket.write packet)) world post := by
  obtain ⟨link, here, isOpen, rfl, rfl, rfl⟩ := talks
  apply ensures_budget expired
  intro left enough
  have still : (world.looked .draws options).links[socket.id]? = some link := here
  obtain ⟨limited, limitRun, limitedHere, same⟩ :=
    update_run ({ · with writeLimit := some left }) still
  apply Dial.ensures_bind_of_eq limitRun
  cases flows : link.peer.outflow (some left) link.received 0 packet link.sent with
  | mk gone result time =>
      obtain ⟨behind, run, there, later⟩ := write_run limitedHere isOpen packet flows
      have pours := Peer.outflow_pours link.peer (some left) link.received 0 packet link.sent
      rw [flows] at pours
      apply Dial.ensures_bind_of_eq run
      cases pours with
      | whole =>
          exact said left time behind enough flows ⟨_, there, isOpen, rfl, rfl, rfl⟩
            (later.behind_update same)
      | broken _ breaks =>
          exact broken left _ _ time behind enough flows breaks ⟨_, there, isOpen, rfl, rfl, rfl⟩

/-- A packet that the peer takes whole within the budget. -/
theorem ensures_say_whole {packet : Bytes} {next : Except Fault Unit → Dial β}
    {left time : Duration}
    (talks : socket.Talks peer sent received world) (budget : options.budget world.now = .ok left)
    (flows : peer.outflow (some left) received 0 packet sent = ⟨sent ++ packet, .ok (), time⟩)
    (said : ∀ behind, socket.Talks peer (sent ++ packet) received behind →
      (world.looked .draws options).Later time behind → (next (.ok ())).Ensures behind post) :
    Dial.Ensures (do
      socket.setWriteLimit (some (← Dial.budget options))
      next (← socket.write packet)) world post := by
  apply ensures_say talks
  case expired =>
    intro error expired
    rw [budget] at expired
    cases expired
  case broken =>
    intro left' fault part time' behind budget' breaksOff
    rw [budget] at budget'
    cases budget'
    rw [flows] at breaksOff
    cases congrArg Outflow.result breaksOff
  case said =>
    intro left' time' behind budget' same talks later
    rw [budget] at budget'
    cases budget'
    rw [flows] at same
    cases same
    exact said behind talks later

/-- A read that may take what is left of the budget. -/
theorem ensures_hear {size : Nat} {next : Except Fault Bytes → Dial β} (positive : 0 < size)
    (talks : socket.Talks peer sent received world)
    (expired : ∀ error, options.budget world.now = .error error →
      post (.error (.failed error)) (world.looked .draws options))
    (failed : ∀ left fault behind, options.budget world.now = .ok left →
      ((peer.next sent received).meets (some left) size).1 = .error fault →
      socket.Talks peer sent received behind → (next (.error fault)).Ensures behind post)
    (heard : ∀ left bytes delay behind, options.budget world.now = .ok left →
      (peer.next sent received).meets (some left) size = (.ok bytes, delay) →
      socket.Talks peer sent (received + bytes.length) behind →
      (world.looked .draws options).Later delay behind → (next (.ok bytes)).Ensures behind post) :
    Dial.Ensures (do
      socket.setReadLimit (some (← Dial.budget options))
      next (← socket.read size)) world post := by
  obtain ⟨link, here, isOpen, rfl, rfl, rfl⟩ := talks
  apply ensures_budget expired
  intro left enough
  have still : (world.looked .draws options).links[socket.id]? = some link := here
  obtain ⟨limited, limitRun, limitedHere, same⟩ :=
    update_run ({ · with readLimit := some left }) still
  apply Dial.ensures_bind_of_eq limitRun
  obtain ⟨behind, run, there, later⟩ := read_run limitedHere isOpen positive
  apply Dial.ensures_bind_of_eq run
  simp only at there later ⊢
  cases met : (link.peer.next link.sent link.received).meets (some left) size with
  | mk result delay =>
      rw [met] at there later
      cases result with
      | error fault =>
          exact failed left fault behind enough (by rw [met]) ⟨_, there, isOpen, rfl, rfl, rfl⟩
      | ok bytes =>
          exact heard left bytes delay behind enough met ⟨_, there, isOpen, rfl, rfl, rfl⟩
            (later.behind_update same)

end Socket

end ProxyDial
