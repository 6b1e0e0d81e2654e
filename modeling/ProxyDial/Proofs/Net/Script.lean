import ProxyDial.Proofs.Net.Talk

set_option autoImplicit false

/-! Peers whose bytes are known, but not the pieces or the times in which they come. What holds for
all such peers holds however a network breaks a stream up. -/

namespace ProxyDial
open Text

/-- A peer that says what a script has for what has been sent to it. It may answer in any pieces, at
any time, and stop short of the end; nothing comes behind the end of its stream. -/
structure Peer.Delivers (peer : Peer) (script : Bytes → Bytes) : Prop where
  grows : ∀ sent more, script sent <+: script (sent ++ more)
  data : ∀ {sent received delay bytes}, peer.next sent received = .data delay bytes →
    bytes ≠ [] ∧ bytes <+: (script sent).drop received
  closed : ∀ {sent received delay}, peer.next sent received = .closed delay →
    ∀ more, (script (sent ++ more)).length ≤ received

/-- A peer that takes every write and says all of a stream, in any pieces, with its end behind it.
No piece takes longer than `patience`. -/
structure Peer.Plays (peer : Peer) (stream : Bytes) (patience : Duration) : Prop where
  data : ∀ sent received, received < stream.length →
    ∃ delay bytes, peer.next sent received = .data delay bytes ∧ bytes ≠ [] ∧
      bytes <+: stream.drop received ∧ delay.nanoseconds ≤ patience.nanoseconds
  closed : ∀ sent received, stream.length ≤ received →
    ∃ delay, peer.next sent received = .closed delay ∧ delay.nanoseconds ≤ patience.nanoseconds
  takes : peer.TakesAll

theorem Peer.Plays.delivers {peer : Peer} {stream : Bytes} {patience : Duration}
    (plays : peer.Plays stream patience) : peer.Delivers fun _ => stream where
  grows sent more := List.prefix_refl stream
  data := by
    intro sent received delay bytes next
    by_cases within : received < stream.length
    · obtain ⟨delay', bytes', next', notEmpty, here, -⟩ := plays.data sent received within
      rw [next] at next'
      cases next'
      exact ⟨notEmpty, here⟩
    · obtain ⟨delay', next', -⟩ := plays.closed sent received (Nat.le_of_not_lt within)
      rw [next] at next'
      cases next'
  closed := by
    intro sent received delay next more
    apply Nat.le_of_not_lt
    intro within
    obtain ⟨delay', bytes', next', -⟩ := plays.data sent received within
    rw [next] at next'
    cases next'

/-- A read that may take any time does not fail. -/
theorem Peer.Plays.meets_ne_error {peer : Peer} {stream : Bytes} {patience : Duration}
    (plays : peer.Plays stream patience) (sent : Bytes) (received size : Nat) {fault : Fault}
    {delay : Duration} : (peer.next sent received).meets none size ≠ (.error fault, delay) := by
  intro failed
  by_cases within : received < stream.length
  · obtain ⟨delay', bytes, next, -⟩ := plays.data sent received within
    rw [next] at failed
    cases failed
  · obtain ⟨delay', next, -⟩ := plays.closed sent received (Nat.le_of_not_lt within)
    rw [next] at failed
    cases failed

theorem Peer.ofStream_plays (stream : Bytes) :
    (Peer.ofStream stream (.closed ⟨0⟩)).Plays stream ⟨0⟩ where
  data sent received within := by
    refine ⟨⟨0⟩, stream.drop received, if_pos within, ?_, List.prefix_refl _, Nat.le_refl 0⟩
    intro empty
    have ends := List.drop_eq_nil_iff.mp empty
    omega
  closed sent received past := ⟨⟨0⟩, if_neg (Nat.not_lt_of_le past), Nat.le_refl 0⟩
  takes := Peer.ofStream_takesAll stream _

/-- A read that succeeds has met a piece of the stream, or its end. -/
theorem Arrival.meets_ok {limit : Option Duration} {size : Nat} {arrival : Arrival} {bytes : Bytes}
    {delay : Duration} (met : arrival.meets limit size = (.ok bytes, delay)) :
    (∃ piece, arrival = .data delay piece ∧ bytes = piece.take size) ∨
      (arrival = .closed delay ∧ bytes = []) := by
  cases arrival with
  | data delay' piece =>
      obtain ⟨same, sameDelay⟩ := waited_ok met
      cases same
      subst sameDelay
      exact Or.inl ⟨piece, rfl, rfl⟩
  | closed delay' =>
      obtain ⟨same, sameDelay⟩ := waited_ok met
      cases same
      subst sameDelay
      exact Or.inr ⟨rfl, rfl⟩
  | failed delay' fault =>
      obtain ⟨impossible, -⟩ := waited_ok met
      cases impossible
  | silence => cases met

theorem Arrival.meets_data {size : Nat} {delay left : Duration} {piece : Bytes}
    (inTime : delay.nanoseconds < left.nanoseconds) :
    (Arrival.data delay piece).meets (some left) size = (.ok (piece.take size), delay) :=
  if_pos inTime

theorem take_ne_nil {size : Nat} {bytes : Bytes} (positive : 0 < size) (notEmpty : bytes ≠ []) :
    bytes.take size ≠ [] := by
  intro empty
  rcases List.take_eq_nil_iff.mp empty with zero | none
  · omega
  · exact notEmpty none

/-- What a read gets is the next part of the script. It is empty only at the end. -/
theorem Peer.Delivers.meets {peer : Peer} {script : Bytes → Bytes} (delivers : peer.Delivers script)
    {limit : Option Duration} {size received : Nat} {sent bytes : Bytes} {delay : Duration}
    (positive : 0 < size)
    (met : (peer.next sent received).meets limit size = (.ok bytes, delay)) :
    bytes <+: (script sent).drop received ∧ bytes.length ≤ size ∧
      (bytes = [] → ∀ more, (script (sent ++ more)).length ≤ received) := by
  rcases Arrival.meets_ok met with ⟨piece, next, same⟩ | ⟨next, same⟩
  · obtain ⟨notEmpty, here⟩ := delivers.data next
    subst same
    refine ⟨(List.take_prefix size piece).trans here, List.length_take_le size piece, ?_⟩
    intro empty
    exact absurd empty (take_ne_nil positive notEmpty)
  · subst same
    exact ⟨List.nil_prefix, Nat.zero_le size, fun _ => delivers.closed next⟩

/-- So much has been said to a peer, and heard of what its script has for that. -/
structure Socket.Exchanged (socket : Socket) (peer : Peer) (script : Bytes → Bytes)
    (said heard : Bytes) (world : World) : Prop where
  talks : socket.Talks peer said heard.length world
  inScript : heard <+: script said

theorem Socket.Exchanged.looked {socket : Socket} {peer : Peer} {script : Bytes → Bytes}
    {said heard : Bytes} {world : World} (exchanged : socket.Exchanged peer script said heard world)
    (kind : Ask.Kind) (options : DialOptions) :
    socket.Exchanged peer script said heard (world.looked kind options) :=
  ⟨exchanged.talks.looked kind options, exchanged.inScript⟩

/-- A part of what comes next has been heard. -/
theorem Socket.Exchanged.hear {socket : Socket} {peer : Peer} {script : Bytes → Bytes}
    {said heard part : Bytes} {world behind : World}
    (exchanged : socket.Exchanged peer script said heard world)
    (here : part <+: (script said).drop heard.length)
    (talks : socket.Talks peer said (heard.length + part.length) behind) :
    socket.Exchanged peer script said (heard ++ part) behind := by
  refine ⟨?_, ?_⟩
  · rw [List.length_append]
    exact talks
  · obtain ⟨unread, split⟩ := exchanged.inScript
    rw [← split, List.drop_left] at here
    rw [← split]
    exact (List.prefix_append_right_inj heard).mpr here

/-- How much has been received tells which bytes of a stream have been heard. -/
theorem Socket.Exchanged.heard_unique {socket : Socket} {peer : Peer}
    {stream said heard later other : Bytes} {world : World}
    (exchanged : socket.Exchanged peer (fun _ => stream) said heard world)
    (again : socket.Exchanged peer (fun _ => stream) later other world) : heard = other := by
  obtain ⟨⟨link, here, -, -, -, received⟩, inStream⟩ := exchanged
  obtain ⟨⟨link', here', -, -, -, received'⟩, inStream'⟩ := again
  rw [here] at here'
  cases here'
  have lengths : heard.length = other.length := received.symm.trans received'
  have start := List.prefix_of_prefix_length_le inStream inStream' (Nat.le_of_eq lengths)
  exact start.eq_of_length lengths

/-- How long so many pauses take together, from the given one on, in nanoseconds. -/
def pausedFrom (pauses : Nat → Duration) (start : Nat) : Nat → Nat
  | 0 => 0
  | count + 1 => (pauses start).nanoseconds + pausedFrom pauses (start + 1) count

theorem pausedFrom_of_prompt {pauses : Nat → Duration} (prompt : ∀ index, pauses index = ⟨0⟩)
    (start count : Nat) : pausedFrom pauses start count = 0 := by
  induction count generalizing start with
  | zero => rfl
  | succ count ih => rw [pausedFrom, prompt, ih]

/-- How long the next looks at the clock pause together. -/
def Watch.pausing (watch : Watch) (count : Nat) : Nat :=
  pausedFrom watch.pauses watch.asks.length count

/-- The pause behind a look at the clock is the first of the next ones. -/
theorem Watch.pausing_looked (kind : Ask.Kind) (options : DialOptions) (world : World)
    (count : Nat) : (world.watch.pauses world.watch.asks.length).nanoseconds +
      (world.looked kind options).watch.pausing count = world.watch.pausing (count + 1) := by
  have next : (world.looked kind options).watch.asks.length = world.watch.asks.length + 1 :=
    List.length_append
  unfold Watch.pausing
  rw [next]
  rfl

/-- The time left is enough for so many pieces, and for all the pauses between the steps. -/
def DialOptions.Enough (options : DialOptions) (world : World) (pieces : Nat)
    (patience : Duration) : Prop :=
  ∃ deadline, options.deadline = some deadline ∧ ∀ count,
    world.now.nanoseconds + pieces * patience.nanoseconds + world.watch.pausing count <
      deadline.nanoseconds

section
variable {options : DialOptions} {world behind : World} {pieces fewer : Nat}
  {patience delay : Duration}

/-- Where no pauses are made, only the pieces take time. -/
theorem DialOptions.enough_of_prompt {deadline : Instant} (has : options.deadline = some deadline)
    (prompt : ∀ index, world.watch.pauses index = ⟨0⟩)
    (inTime : world.now.nanoseconds + pieces * patience.nanoseconds < deadline.nanoseconds) :
    options.Enough world pieces patience := by
  refine ⟨deadline, has, ?_⟩
  intro count
  have none : world.watch.pausing count = 0 := pausedFrom_of_prompt prompt _ count
  rw [none]
  exact inTime

theorem DialOptions.Enough.budget (enough : options.Enough world pieces patience) :
    ∃ left, options.budget world.now = .ok left ∧
      pieces * patience.nanoseconds < left.nanoseconds := by
  obtain ⟨deadline, same, before⟩ := enough
  have inTime := before 0
  refine ⟨deadline.remaining world.now, ?_, ?_⟩
  · rw [DialOptions.budget_eq same, if_pos (by omega)]
  · unfold Instant.remaining
    simp only
    omega

/-- So is what was left when the clock was looked at before. -/
theorem DialOptions.Enough.lt_of_drawn (enough : options.Enough world pieces patience)
    {drawn : Instant} {left : Duration} (budget : options.budget drawn = .ok left)
    (past : drawn.nanoseconds ≤ world.now.nanoseconds) :
    pieces * patience.nanoseconds < left.nanoseconds := by
  obtain ⟨deadline, same, before⟩ := enough
  have earlier : options.Enough { world with now := drawn } pieces patience := by
    refine ⟨deadline, same, ?_⟩
    intro count
    have inTime := before count
    dsimp only
    omega
  obtain ⟨left', budget', less⟩ := earlier.budget
  rw [budget] at budget'
  cases budget'
  exact less

/-- A look at the clock uses up one of the pauses. -/
theorem DialOptions.Enough.looked (enough : options.Enough world pieces patience)
    (kind : Ask.Kind) (other : DialOptions) :
    options.Enough (world.looked kind other) pieces patience := by
  obtain ⟨deadline, same, before⟩ := enough
  refine ⟨deadline, same, ?_⟩
  intro count
  have inTime := before (count + 1)
  rw [← Watch.pausing_looked kind other] at inTime
  have now : (world.looked kind other).now.nanoseconds = world.now.nanoseconds +
    (world.watch.pauses world.watch.asks.length).nanoseconds := rfl
  rw [now]
  omega

/-- A piece that has been waited for takes its part of the time. -/
theorem DialOptions.Enough.later (enough : options.Enough world pieces patience)
    (later : world.Later delay behind) (fits : delay.nanoseconds ≤ patience.nanoseconds)
    (less : fewer < pieces) : options.Enough behind fewer patience := by
  obtain ⟨deadline, same, before⟩ := enough
  refine ⟨deadline, same, ?_⟩
  intro count
  have inTime := before count
  have counts : (fewer + 1) * patience.nanoseconds ≤ pieces * patience.nanoseconds :=
    Nat.mul_le_mul_right patience.nanoseconds less
  rw [Nat.succ_mul] at counts
  rw [later.now, later.watch]
  unfold Instant.later
  simp only
  omega

/-- What takes no time leaves enough of it. -/
theorem DialOptions.Enough.still (enough : options.Enough world pieces patience)
    (later : world.Later ⟨0⟩ behind) : options.Enough behind pieces patience := by
  obtain ⟨deadline, same, before⟩ := enough
  refine ⟨deadline, same, ?_⟩
  rw [later.now, later.watch]
  exact before

end

/-- Before the end of its stream, a peer that plays lets a read get some of what is unread. -/
theorem Socket.ensures_hear_plays {β : Type} {socket : Socket} {peer : Peer}
    {stream said heard unread : Bytes} {patience : Duration} {options : DialOptions} {world : World}
    {size : Nat} {post : Except Abort β → World → Prop} {next : Except Fault Bytes → Dial β}
    (plays : peer.Plays stream patience) (split : stream = heard ++ unread)
    (notEnd : unread ≠ []) (positive : 0 < size)
    (talks : socket.Talks peer said heard.length world)
    (enough : options.Enough world unread.length patience)
    (goes : ∀ got rest behind, got ≠ [] → got.length ≤ size → unread = got ++ rest →
      socket.Talks peer said (heard ++ got).length behind →
      options.Enough behind rest.length patience → (next (.ok got)).Ensures behind post) :
    Dial.Ensures (do
      socket.setReadLimit (some (← Dial.budget options))
      next (← socket.read size)) world post := by
  obtain ⟨left, budget, inTime⟩ := enough.budget
  have some := List.length_pos_iff.mpr notEnd
  have within : heard.length < stream.length := by
    rw [split, List.length_append]
    omega
  obtain ⟨delay, piece, arrives, notEmpty, here, fits⟩ := plays.data said heard.length within
  rw [split, List.drop_left] at here
  have quick : delay.nanoseconds < left.nanoseconds := by
    have one : patience.nanoseconds ≤ unread.length * patience.nanoseconds :=
      Nat.le_mul_of_pos_left _ some
    omega
  apply Socket.ensures_hear positive talks
  case expired =>
    intro error expired
    rw [budget] at expired
    cases expired
  case failed =>
    intro left' fault behind budget' met
    rw [budget] at budget'
    cases budget'
    rw [arrives, Arrival.meets_data quick] at met
    cases met
  case heard =>
    intro left' got delay' behind budget' met further later
    rw [budget] at budget'
    cases budget'
    rw [arrives, Arrival.meets_data quick] at met
    cases met
    obtain ⟨rest, whole⟩ := (List.take_prefix size piece).trans here
    have gotSome : piece.take size ≠ [] := take_ne_nil positive notEmpty
    apply goes _ rest behind gotSome (List.length_take_le size piece) whole.symm
    · rw [List.length_append]
      exact further
    · apply (enough.looked .draws options).later later fits
      have positive := List.length_pos_iff.mpr gotSome
      rw [← whole, List.length_append]
      omega

/-- A peer that takes everything lets a packet be said at once. -/
theorem Socket.ensures_say_at_once {β : Type} {socket : Socket} {peer : Peer} {said packet : Bytes}
    {received pieces : Nat} {patience : Duration} {options : DialOptions} {world : World}
    {post : Except Abort β → World → Prop} {next : Except Fault Unit → Dial β}
    (takes : peer.TakesAll) (talks : socket.Talks peer said received world)
    (enough : options.Enough world pieces patience)
    (goes : ∀ behind, socket.Talks peer (said ++ packet) received behind →
      options.Enough behind pieces patience → (next (.ok ())).Ensures behind post) :
    Dial.Ensures (do
      socket.setWriteLimit (some (← Dial.budget options))
      next (← socket.write packet)) world post := by
  obtain ⟨left, budget, -⟩ := enough.budget
  have positive : ∀ limit, some left = some limit → 0 < limit.nanoseconds := by
    rintro limit ⟨⟩
    exact DialOptions.budget_pos budget
  apply Socket.ensures_say_whole talks budget (takes.outflow positive received 0 packet said)
  intro behind further later
  exact goes behind further ((enough.looked .draws options).still later)

/-- A host with one connection, on which nothing has been said yet. -/
def World.linked (peer : Peer) : World :=
  { World.isolated with
    links := [⟨⟨.v4 ⟨10, 0, 0, 1⟩, 1080, 0⟩, peer, [], 0, true, false, none, none, none⟩] }

theorem World.linked_talks (peer : Peer) : Socket.Talks ⟨0⟩ peer [] 0 (.linked peer) :=
  ⟨_, rfl, rfl, rfl, rfl, rfl⟩

/-- A dial that starts has a deadline, unless the clock does not reach that far. -/
theorem ensures_started {β : Type} {options : DialOptions} {world : World}
    {post : Except Abort β → World → Prop} {next : DialOptions → Dial β}
    (overflow : options.started? world.now = none →
      post (.error .clockOverflow) (world.looked .starts options))
    (starts : ∀ started, options.started? world.now = some started →
      (next started).Ensures (world.looked .starts options) post) :
    Dial.Ensures (Dial.started options >>= next) world post := by
  have run := Dial.started_run options world
  cases started : options.started? world.now with
  | none =>
      rw [started] at run
      exact Dial.ensures_bind (Dial.ensures_of_eq run (overflow started))
  | some begun =>
      rw [started] at run
      exact Dial.ensures_bind_of_eq run (starts begun started)

end ProxyDial
