import ProxyDial.Proofs.Net.Script

set_option autoImplicit false

/-! Streams that break off. A peer says some bytes, in any pieces, and then hangs up or keeps
silent. A step that waits for more than these bytes fails with an error whose kind tells how they
end. -/

namespace ProxyDial
open Text

/-- What a peer does once it has said all. -/
inductive Ending
  | hangsUp
  | keepsSilent
  deriving DecidableEq, Repr

/-- What a read meets then. The end of the stream comes after a lag. -/
def Ending.arrival (lag : Duration) : Ending → Arrival
  | hangsUp => .closed lag
  | keepsSilent => .silence

/-- The kind of error for a handshake that waits for more. -/
def Ending.kind : Ending → ErrorKind
  | hangsUp => .protocol
  | keepsSilent => .timeout

/-- A dial has failed with such an error. It has returned nothing. -/
def Ending.Fails {α : Type} (ending : Ending) (result : Except Abort α) : Prop :=
  ∃ error, result = .error (.failed error) ∧ error.kind = ending.kind

/-- What is caught so that a connection is closed first fails all the same. -/
theorem Ending.ensures_closing {α β : Type} {ending : Ending} {dial : Dial α}
    {next : Except Error α → Dial β} {socket : Socket} {world : World}
    (fails : dial.Ensures world fun result _ => ending.Fails result)
    (closes : ∀ error, next (.error error) = do socket.close; .fail error) :
    (Dial.attempt dial >>= next).Ensures world fun result _ => ending.Fails result := by
  apply Dial.ensures_attempt
  refine fails.mono ?_
  intro result behind failed
  obtain ⟨error, rfl, kind⟩ := failed
  dsimp only
  rw [closes]
  exact Dial.ensures_bind_of_eq rfl (Dial.ensures_fail ⟨error, rfl, kind⟩)

/-- A peer that takes every write and says all of a stream, in any pieces, and then ends. Neither a
piece nor the ending takes longer than `patience`. -/
structure Peer.Recites (peer : Peer) (stream : Bytes) (ending : Ending) (patience : Duration) :
    Prop where
  data : ∀ sent received, received < stream.length →
    ∃ delay bytes, peer.next sent received = .data delay bytes ∧ bytes ≠ [] ∧
      bytes <+: stream.drop received ∧ delay.nanoseconds ≤ patience.nanoseconds
  ends : ∀ sent received, stream.length ≤ received →
    ∃ lag, peer.next sent received = ending.arrival lag ∧ lag.nanoseconds ≤ patience.nanoseconds
  takes : peer.TakesAll

theorem Peer.ofStream_recites (stream : Bytes) (ending : Ending) :
    (Peer.ofStream stream (ending.arrival ⟨0⟩)).Recites stream ending ⟨0⟩ where
  data sent received within := by
    refine ⟨⟨0⟩, stream.drop received, if_pos within, ?_, List.prefix_refl _, Nat.le_refl 0⟩
    intro empty
    have ends := List.drop_eq_nil_iff.mp empty
    omega
  ends sent received past := ⟨⟨0⟩, if_neg (Nat.not_lt_of_le past), Nat.le_refl 0⟩
  takes := Peer.ofStream_takesAll stream _

/-- So much is still to be heard before a socket's peer ends. Where it hangs up, the time left is
enough to hear all and to meet the end. -/
def Socket.Awaits (socket : Socket) (ending : Ending) (options : DialOptions) (unread : Bytes)
    (world : World) : Prop :=
  ∃ peer patience said heard, peer.Recites (heard ++ unread) ending patience ∧
    socket.Talks peer said heard.length world ∧
    (ending = .hangsUp → options.Enough world (unread.length + 1) patience)

/-- What a read meets where so much is still to be heard: a part, with a rest behind it, or else the
ending. -/
inductive Ending.Meets (ending : Ending) (unread : Bytes) (size : Nat) (behind : Bytes → Prop) :
    Except Fault Bytes → Prop
  | part {got rest : Bytes} (split : unread = got ++ rest) (notEmpty : got ≠ [])
      (fits : got.length ≤ size) (further : behind rest) : Meets ending unread size behind (.ok got)
  | closed (hangsUp : ending = .hangsUp) (all : unread = []) :
      Meets ending unread size behind (.ok [])
  | late (silent : ending = .keepsSilent) : Meets ending unread size behind (.error .notReady)

theorem Ending.Meets.mono {ending : Ending} {unread : Bytes} {size : Nat}
    {behind weaker : Bytes → Prop} {outcome : Except Fault Bytes}
    (meets : ending.Meets unread size behind outcome) (weaken : ∀ rest, behind rest → weaker rest) :
    ending.Meets unread size weaker outcome := by
  cases meets with
  | part split notEmpty fits further => exact .part split notEmpty fits (weaken _ further)
  | closed hangsUp all => exact .closed hangsUp all
  | late silent => exact .late silent

/-- A read meets what the peer says next, if that comes within the time left. -/
theorem Peer.Recites.meets {peer : Peer} {heard unread sent : Bytes} {ending : Ending}
    {patience left delay : Duration} {size : Nat} {outcome : Except Fault Bytes}
    (recites : peer.Recites (heard ++ unread) ending patience) (positive : 0 < size)
    (inTime : ending = .hangsUp → patience.nanoseconds < left.nanoseconds)
    (met : (peer.next sent heard.length).meets (some left) size = (outcome, delay)) :
    ending.Meets unread size (fun _ => delay.nanoseconds ≤ patience.nanoseconds) outcome := by
  by_cases all : unread = []
  · subst all
    have past : (heard ++ []).length ≤ heard.length := by simp
    obtain ⟨lag, arrives, quick⟩ := recites.ends sent heard.length past
    rw [arrives] at met
    cases ending with
    | keepsSilent =>
        cases met
        exact .late rfl
    | hangsUp =>
        have comes : lag.nanoseconds < left.nanoseconds := Nat.lt_of_le_of_lt quick (inTime rfl)
        have meets : (Arrival.closed lag).meets (some left) size = (.ok [], lag) := if_pos comes
        rw [Ending.arrival, meets] at met
        cases met
        exact .closed rfl rfl
  · have within : heard.length < (heard ++ unread).length := by
      have positive := List.length_pos_iff.mpr all
      rw [List.length_append]
      omega
    obtain ⟨lag, piece, arrives, notEmpty, part, quick⟩ := recites.data sent heard.length within
    rw [List.drop_left] at part
    rw [arrives] at met
    by_cases comes : lag.nanoseconds < left.nanoseconds
    · rw [Arrival.meets_data comes] at met
      cases met
      obtain ⟨rest, split⟩ := (List.take_prefix size piece).trans part
      exact .part split.symm (take_ne_nil positive notEmpty) (List.length_take_le size piece) quick
    · have meets : (Arrival.data lag piece).meets (some left) size = (.error .notReady, left) :=
        if_neg comes
      rw [meets] at met
      cases met
      cases ending with
      | keepsSilent => exact .late rfl
      | hangsUp => exact absurd (Nat.lt_of_le_of_lt quick (inTime rfl)) comes

/-- Of what is wanted, a read takes what has come, and the rest stays wanted. -/
theorem wanted_behind {got rest wanted : Bytes} {count : Nat} (size : wanted.length = count + 1)
    (notEmpty : got ≠ []) (fits : got.length ≤ count + 1)
    (start : got ++ rest <+: wanted ∨ wanted <+: got ++ rest) :
    ∃ byte bytes more, got = byte :: bytes ∧ wanted = byte :: bytes ++ more ∧
      more.length = count - bytes.length ∧ (rest <+: more ∨ more <+: rest) := by
  have part : got <+: wanted := by
    rcases start with within | beyond
    · exact (List.prefix_append got rest).trans within
    · rw [← size] at fits
      exact List.prefix_of_prefix_length_le (List.prefix_append got rest) beyond fits
  obtain ⟨more, rfl⟩ := part
  rw [List.prefix_append_right_inj, List.prefix_append_right_inj] at start
  cases got with
  | nil => exact absurd rfl notEmpty
  | cons byte bytes =>
      rw [List.length_append, List.length_cons] at size
      exact ⟨byte, bytes, more, rfl, rfl, by omega, start⟩

namespace Socket.Awaits

variable {socket : Socket} {ending : Ending} {options : DialOptions} {unread : Bytes}
  {world : World} {β : Type} {post : Except Abort β → World → Prop}

/-- What does not touch the connections, and takes no time, takes nothing off them. -/
theorem of_links {behind : World} (awaits : socket.Awaits ending options unread world)
    (links : behind.links = world.links) (later : world.Later ⟨0⟩ behind) :
    socket.Awaits ending options unread behind := by
  obtain ⟨peer, patience, said, heard, recites, talks, enough⟩ := awaits
  unfold Socket.Talks at talks
  rw [← links] at talks
  exact ⟨peer, patience, said, heard, recites, talks, fun hangsUp => (enough hangsUp).still later⟩

/-- Nor does a look at the clock, for all its pause. -/
theorem looked (awaits : socket.Awaits ending options unread world) (kind : Ask.Kind)
    (other : DialOptions) : socket.Awaits ending options unread (world.looked kind other) := by
  obtain ⟨peer, patience, said, heard, recites, talks, enough⟩ := awaits
  exact ⟨peer, patience, said, heard, recites, talks.looked kind other,
    fun hangsUp => (enough hangsUp).looked kind other⟩

/-- A bound for later reads or writes says nothing to the peer. -/
theorem update (awaits : socket.Awaits ending options unread world) (change : Link → Link)
    (quiet : ∀ link, (change link).isOpen = link.isOpen ∧ (change link).peer = link.peer ∧
      (change link).sent = link.sent ∧ (change link).received = link.received) :
    ∃ link behind, socket.update change world = (.ok (), behind) ∧
      world.links[socket.id]? = some link ∧ behind.links[socket.id]? = some (change link) ∧
      socket.Awaits ending options unread behind ∧ world.Later ⟨0⟩ behind := by
  obtain ⟨peer, patience, said, heard, recites, talks, enough⟩ := awaits
  obtain ⟨link, here, isOpen, samePeer, sameSent, sameReceived⟩ := talks
  obtain ⟨behind, run, there, later⟩ := update_run change here
  obtain ⟨keepsOpen, keepsPeer, keepsSent, keepsReceived⟩ := quiet link
  have further : socket.Talks peer said heard.length behind :=
    ⟨_, there, keepsOpen.trans isOpen, keepsPeer.trans samePeer, keepsSent.trans sameSent,
      keepsReceived.trans sameReceived⟩
  exact ⟨link, behind, run, here, there, ⟨peer, patience, said, heard, recites, further,
    fun hangsUp => (enough hangsUp).still later⟩, later⟩

/-- What is left of the budget suffices unless the peer keeps silent. -/
theorem ensures_budget {next : Duration → Dial β}
    (awaits : socket.Awaits ending options unread world)
    (expired : ∀ error, error.kind = ending.kind →
      post (.error (.failed error)) (world.looked .draws options))
    (left : ∀ left, options.budget world.now = .ok left →
      (next left).Ensures (world.looked .draws options) post) :
    Dial.Ensures (Dial.budget options >>= next) world post := by
  apply Socket.ensures_budget
  · intro error spent
    apply expired
    rw [DialOptions.budget_error spent]
    cases ending with
    | keepsSilent => rfl
    | hangsUp =>
        obtain ⟨peer, patience, said, heard, recites, talks, enough⟩ := awaits
        obtain ⟨left, budget, -⟩ := (enough rfl).budget
        rw [budget] at spent
        cases spent
  · exact left

theorem write (awaits : socket.Awaits ending options unread world) {link : Link} {left : Duration}
    (here : world.links[socket.id]? = some link) (limited : link.writeLimit = some left)
    (positive : 0 < left.nanoseconds) (packet : Bytes) :
    ∃ behind, socket.write packet world = (.ok (.ok ()), behind) ∧
      socket.Awaits ending options unread behind := by
  obtain ⟨peer, patience, said, heard, recites, talks, enough⟩ := awaits
  obtain ⟨link', here', isOpen, rfl, rfl, received⟩ := talks
  rw [here] at here'
  cases here'
  have some : ∀ limit, link.writeLimit = some limit → 0 < limit.nanoseconds := by
    rw [limited]
    rintro limit ⟨⟩
    exact positive
  have flows := recites.takes.outflow some link.received 0 packet link.sent
  obtain ⟨behind, run, there, later⟩ := Socket.write_run here isOpen packet flows
  exact ⟨behind, run, _, patience, _, heard, recites, ⟨_, there, isOpen, rfl, rfl, received⟩,
    fun hangsUp => (enough hangsUp).still later⟩

/-- Within what was left of the budget when it was looked at, a read meets a part of what is unread,
or the ending. -/
theorem read (awaits : socket.Awaits ending options unread world) {link : Link} {left : Duration}
    {drawn : Instant} (here : world.links[socket.id]? = some link)
    (limited : link.readLimit = some left) (budget : options.budget drawn = .ok left)
    (past : drawn.nanoseconds ≤ world.now.nanoseconds) {size : Nat} (positive : 0 < size) :
    ∃ outcome behind, socket.read size world = (.ok outcome, behind) ∧
      ending.Meets unread size (socket.Awaits ending options · behind) outcome := by
  obtain ⟨peer, patience, said, heard, recites, talks, enough⟩ := awaits
  obtain ⟨link', here', isOpen, rfl, rfl, received⟩ := talks
  rw [here] at here'
  cases here'
  obtain ⟨behind, run, there, later⟩ := Socket.read_run here isOpen positive
  rw [limited, received] at run there later
  -- Where the peer hangs up, there is time for one more read.
  have inTime (hangsUp : ending = .hangsUp) : patience.nanoseconds < left.nanoseconds := by
    have less := (enough hangsUp).lt_of_drawn budget past
    exact Nat.lt_of_le_of_lt (Nat.le_mul_of_pos_left _ (Nat.succ_pos _)) less
  cases met : (link.peer.next link.sent heard.length).meets (some left) size with
  | mk outcome delay =>
      rw [met] at run there later
      refine ⟨outcome, behind, run, ?_⟩
      cases recites.meets positive inTime met with
      | closed hangsUp all => exact .closed hangsUp all
      | late silent => exact .late silent
      | @part got rest split notEmpty fits quick =>
          subst split
          refine .part rfl notEmpty fits ⟨link.peer, patience, link.sent, heard ++ got, ?_, ?_, ?_⟩
          · rw [List.append_assoc]
            exact recites
          · rw [List.length_append]
            exact ⟨_, there, isOpen, rfl, rfl, congrArg (· + got.length) received⟩
          · intro hangsUp
            apply (enough hangsUp).later later quick
            have positive := List.length_pos_iff.mpr notEmpty
            rw [List.length_append]
            omega

/-- A packet that is sent within the budget. -/
theorem ensures_say {packet : Bytes} {next : Except Fault Unit → Dial β}
    (awaits : socket.Awaits ending options unread world)
    (expired : ∀ error, error.kind = ending.kind →
      post (.error (.failed error)) (world.looked .draws options))
    (said : ∀ behind, socket.Awaits ending options unread behind →
      (next (.ok ())).Ensures behind post) :
    Dial.Ensures (do
      socket.setWriteLimit (some (← Dial.budget options))
      next (← socket.write packet)) world post := by
  apply awaits.ensures_budget expired
  intro left budget
  obtain ⟨link, limited, limitRun, -, here, awaits, -⟩ := (awaits.looked .draws options).update
    ({ · with writeLimit := some left }) fun _ => ⟨rfl, rfl, rfl, rfl⟩
  apply Dial.ensures_bind_of_eq limitRun
  obtain ⟨behind, run, awaits⟩ :=
    awaits.write here rfl (DialOptions.budget_pos budget) packet
  exact Dial.ensures_bind_of_eq run (said behind awaits)

/-- A read that may take what is left of the budget. -/
theorem ensures_hear {size : Nat} {next : Except Fault Bytes → Dial β} (positive : 0 < size)
    (awaits : socket.Awaits ending options unread world)
    (expired : ∀ error, error.kind = ending.kind →
      post (.error (.failed error)) (world.looked .draws options))
    (meets : ∀ outcome behind, ending.Meets unread size (socket.Awaits ending options · behind)
      outcome → (next outcome).Ensures behind post) :
    Dial.Ensures (do
      socket.setReadLimit (some (← Dial.budget options))
      next (← socket.read size)) world post := by
  apply awaits.ensures_budget expired
  intro left budget
  obtain ⟨link, limited, limitRun, -, here, awaits, later⟩ := (awaits.looked .draws options).update
    ({ · with readLimit := some left }) fun _ => ⟨rfl, rfl, rfl, rfl⟩
  apply Dial.ensures_bind_of_eq limitRun
  have past := World.le_looked_update .draws options later
  obtain ⟨outcome, behind, run, met⟩ := awaits.read here rfl budget past positive
  exact Dial.ensures_bind_of_eq run (meets outcome behind met)

end Socket.Awaits

namespace Dial

variable {α β γ δ : Type} {ending : Ending}

/-- Of two dials that start from such worlds, where the first one succeeds, the second one does so
as well and they end up like this, or else it fails as the ending tells. -/
def Follows (ending : Ending) (one : Dial α) (other : Dial β) (before : World → World → Prop)
    (after : α → β → World → World → Prop) : Prop :=
  ∀ first second value behind, before first second → one first = (.ok value, behind) →
    other.Ensures second fun result last =>
      ending.Fails result ∨ ∃ found, result = .ok found ∧ after value found behind last

section
variable {one : Dial α} {other : Dial β} {before : World → World → Prop}

theorem follows_pure {after : α → β → World → World → Prop} {value : α} {found : β}
    (holds : ∀ first second, before first second → after value found first second) :
    Follows ending (pure value) (pure found) before after := by
  rintro first second _ _ starts ⟨⟩
  exact ensures_pure (.inr ⟨found, rfl, holds first second starts⟩)

theorem Follows.mono {after weaker : α → β → World → World → Prop}
    (follows : Follows ending one other before after)
    (weaken : ∀ value found behind last, after value found behind last →
      weaker value found behind last) : Follows ending one other before weaker := by
  intro first second value behind starts run
  refine (follows first second value behind starts run).mono ?_
  rintro result last (fails | ⟨found, rfl, ends⟩)
  · exact .inl fails
  · exact .inr ⟨found, rfl, weaken value found behind last ends⟩

/-- There is nothing to follow where the first dial fails. -/
theorem follows_fail {after : α → β → World → World → Prop} {error : Error} :
    Follows ending (fail error) other before after := by
  rintro first second value behind starts ⟨⟩

theorem follows_assume {holds : Prop} {after : α → β → World → World → Prop}
    (follows : holds → Follows ending one other before after) :
    Follows ending one other (fun first second => holds ∧ before first second) after := by
  rintro first second value behind ⟨known, starts⟩ run
  exact follows known first second value behind starts run

/-- Two dials that look at their worlds. -/
theorem follows_get {next : World → Dial γ} {goes : World → Dial δ}
    {after : γ → δ → World → World → Prop}
    (rest : ∀ here there, before here there →
      Follows ending (next here) (goes there) before after) :
    Follows ending (get >>= next) (get >>= goes) before after :=
  fun first second value behind starts run =>
    rest first second starts first second value behind starts run

theorem follows_bind {next : α → Dial γ} {goes : β → Dial δ}
    {middle : α → β → World → World → Prop} {after : γ → δ → World → World → Prop}
    (step : Follows ending one other before middle)
    (rest : ∀ value found, Follows ending (next value) (goes found) (middle value found) after) :
    Follows ending (one >>= next) (other >>= goes) before after := by
  intro first second value behind starts run
  obtain ⟨found, between, ran, run⟩ := bind_run_ok run
  apply ensures_bind
  refine (step first second found between starts ran).mono ?_
  rintro result last (⟨error, rfl, kind⟩ | ⟨other, rfl, abreast⟩)
  · exact .inl ⟨error, rfl, kind⟩
  · exact rest found other between last value behind abreast run

/-- Both dials have returned the same. -/
theorem follows_bind_same {one other : Dial α} {next : α → Dial γ} {goes : α → Dial δ}
    {between : World → World → Prop} {after : γ → δ → World → World → Prop}
    (step : Follows ending one other before
      fun value found first second => value = found ∧ between first second)
    (rest : ∀ value, Follows ending (next value) (goes value) between after) :
    Follows ending (one >>= next) (other >>= goes) before after := by
  apply follows_bind step
  intro value found
  apply follows_assume
  intro same
  subst same
  exact rest value

theorem follows_ofExcept (outcome : Except Error α) :
    Follows ending (ofExcept outcome) (ofExcept outcome) before
      fun value found first second => value = found ∧ before first second := by
  cases outcome with
  | error error => exact follows_fail
  | ok value => exact follows_pure fun first second starts => ⟨rfl, starts⟩

end

end Dial

section
variable {α : Type}

/-- In some run on a stream the operation succeeds and takes these bytes off it. What has been heard
behind them is held back with the value that is returned. -/
def Succeeds (operation : DialOptions → Socket → Dial α) (held : α → Bytes) (taken : Bytes) :
    Prop :=
  ∃ options socket peer stream said later world value behind, peer.Delivers (fun _ => stream) ∧
    socket.Exchanged peer (fun _ => stream) said [] world ∧
    operation options socket world = (.ok value, behind) ∧
    socket.Exchanged peer (fun _ => stream) later (taken ++ held value) behind

theorem World.linked_awaits {ending : Ending} {options : DialOptions} {part : Bytes}
    (enough :
      options.Enough (.linked (.ofStream part (ending.arrival ⟨0⟩))) (part.length + 1) ⟨0⟩) :
    Socket.Awaits ⟨0⟩ ending options part (.linked (.ofStream part (ending.arrival ⟨0⟩))) :=
  ⟨_, ⟨0⟩, [], [], Peer.ofStream_recites part ending, World.linked_talks _, fun _ => enough⟩

/-- On a stream that breaks off behind these bytes, the operation fails as the ending tells. -/
def FailsBehind (operation : DialOptions → Socket → Dial α) (part : Bytes) (ending : Ending) :
    Prop :=
  ∀ options started socket world, options.started? world.now = some started →
    socket.Awaits ending started part world →
      (operation options socket).Ensures world fun result _ => ending.Fails result

end

end ProxyDial
