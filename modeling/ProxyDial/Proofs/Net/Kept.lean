import ProxyDial.Net.Stream
import ProxyDial.Proofs.Net.Talk

set_option autoImplicit false

/-! What the steps of a dial leave alone. A step on one socket leaves every other connection as it
was, and on its own connection whatever the step has no part in. -/

namespace ProxyDial
open Text

/-- A view of connections that shows neither what is heard nor how long a use may take. -/
structure Link.HidesHearing {γ : Type} (view : Link → γ) : Prop where
  received : ∀ link count, view { link with received := count } = view link
  readLimit : ∀ link limit, view { link with readLimit := limit } = view link
  writeLimit : ∀ link limit, view { link with writeLimit := limit } = view link

/-- A view that does not show what is said, either. -/
structure Link.HidesTalk {γ : Type} (view : Link → γ) : Prop extends Link.HidesHearing view where
  sent : ∀ link bytes, view { link with sent := bytes } = view link

/-- A view that does not show, in addition, whether and with whom a connection is protected. -/
structure Link.HidesProtection {γ : Type} (view : Link → γ) : Prop extends Link.HidesTalk view where
  tls : ∀ link server, view { link with tls := server } = view link

/-- All other connections are as they were, and so is the view of the one that the socket leads to.
-/
structure Socket.Kept {γ : Type} (socket : Socket) (view : Link → γ) (before behind : World) :
    Prop where
  others : ∀ id, id ≠ socket.id → behind.links[id]? = before.links[id]?
  own : behind.links[socket.id]?.map view = before.links[socket.id]?.map view

namespace Dial

variable {α β γ : Type}

/-- The dial touches no connection. -/
def Still (dial : Dial α) : Prop :=
  ∀ world, dial.Ensures world fun _ behind => behind.links = world.links

/-- The dial touches no other connection than that of the socket, and nothing that the view shows.
-/
def Keeps (dial : Dial α) (socket : Socket) (view : Link → γ) : Prop :=
  ∀ world, dial.Ensures world fun _ behind => socket.Kept view world behind

/-- Whatever the dial returns is good in the world that it leaves behind. -/
def Leaves (dial : Dial α) (good : α → World → Prop) : Prop :=
  ∀ world, dial.Ensures world fun result behind => ∀ value, result = .ok value → good value behind

theorem still_pure {value : α} : Still (pure value) := fun _ => rfl

theorem still_fail {error : Error} : Still (α := α) (fail error) := fun _ => rfl

theorem still_world : Still (get : Dial World) := fun _ => rfl

theorem still_get {next : World → Dial β} (still : ∀ world, (next world).Still) :
    Still (get >>= next) :=
  fun world => still world world

theorem still_modify {change : World → World}
    (same : ∀ world, (change world).links = world.links) : Still (modify change) :=
  fun world => same world

theorem still_wait (duration : Duration) : Still (modify (World.wait duration)) := fun _ => rfl

theorem still_bind {first : Dial α} {next : α → Dial β} (still : first.Still)
    (rest : ∀ value, (next value).Still) : Still (first >>= next) := by
  intro world
  apply ensures_bind
  refine (still world).mono ?_
  intro result middle same
  cases result with
  | error abort => exact same
  | ok value =>
      refine (rest value middle).mono ?_
      intro result behind later
      exact later.trans same

theorem still_ofExcept (outcome : Except Error α) : Still (ofExcept outcome) := by
  cases outcome with
  | ok value => exact still_pure
  | error error => exact still_fail

theorem still_orFail (classify : Fault → Error) (outcome : Except Fault α) :
    Still (orFail classify outcome) := by
  cases outcome with
  | ok value => exact still_pure
  | error fault => exact still_fail

theorem still_look (kind : Ask.Kind) (options : DialOptions) : (look kind options).Still :=
  fun _ => rfl

theorem still_started (options : DialOptions) : (started options).Still := by
  apply still_bind (still_look .starts options)
  intro now
  cases options.started? now with
  | some options => exact still_pure
  | none => exact fun _ => rfl

theorem still_budget (options : DialOptions) : (budget options).Still := by
  apply still_bind (still_look .draws options)
  intro now
  exact still_ofExcept _

theorem still_awaitLookup (host : String) : (awaitLookup host).Still := fun _ => rfl

theorem still_drawNumber : drawNumber.Still := fun _ => rfl

theorem still_calendarTime : calendarTime.Still := still_get fun _ => still_pure

theorem Keeps.of_still {dial : Dial α} {socket : Socket} {view : Link → γ} (still : dial.Still) :
    dial.Keeps socket view := by
  intro world
  refine (still world).mono ?_
  intro result behind same
  constructor
  · intro id _
    rw [same]
  · rw [same]

theorem keeps_pure {value : α} {socket : Socket} {view : Link → γ} :
    Keeps (pure value) socket view := .of_still still_pure

theorem keeps_fail {error : Error} {socket : Socket} {view : Link → γ} :
    Keeps (α := α) (fail error) socket view := .of_still still_fail

theorem keeps_get {next : World → Dial β} {socket : Socket} {view : Link → γ}
    (keeps : ∀ world, (next world).Keeps socket view) : Keeps (get >>= next) socket view :=
  fun world => keeps world world

/-- The second step may rely on what the first one returns. -/
theorem keeps_bind_of {first : Dial α} {next : α → Dial β} {socket : Socket} {view : Link → γ}
    {good : α → Prop} (keeps : first.Keeps socket view) (gives : first.Gives good)
    (rest : ∀ value, good value → (next value).Keeps socket view) :
    Keeps (first >>= next) socket view := by
  intro world
  apply ensures_bind
  cases run : first world with
  | mk result middle =>
      have before := (keeps world).of_run run
      apply ensures_of_eq run
      cases result with
      | error abort => exact before
      | ok value =>
          have found := (gives world).of_run run value rfl
          refine (rest value found middle).mono ?_
          intro result behind later
          constructor
          · intro id other
            exact (later.others id other).trans (before.others id other)
          · exact later.own.trans before.own

theorem keeps_bind {first : Dial α} {next : α → Dial β} {socket : Socket} {view : Link → γ}
    (keeps : first.Keeps socket view) (rest : ∀ value, (next value).Keeps socket view) :
    Keeps (first >>= next) socket view := by
  have anything : first.Gives fun _ => True := fun _ _ _ => trivial
  exact keeps_bind_of keeps anything fun value _ => rest value

/-- A failure that is caught has touched no more than one that is not. -/
theorem keeps_attempt {dial : Dial α} {socket : Socket} {view : Link → γ}
    (keeps : dial.Keeps socket view) : (attempt dial).Keeps socket view := by
  intro world
  have kept := keeps world
  unfold Ensures attempt at *
  cases run : dial world with
  | mk result behind =>
      rw [run] at kept
      cases result with
      | ok value => exact kept
      | error abort => cases abort <;> exact kept

theorem leaves_fail {error : Error} {good : α → World → Prop} : Leaves (fail error) good := by
  intro world
  apply ensures_fail
  intro value impossible
  cases impossible

theorem leaves_bind {first : Dial α} {next : α → Dial β} {good : β → World → Prop}
    (leaves : ∀ value, (next value).Leaves good) : Leaves (first >>= next) good := by
  intro world
  apply ensures_bind
  cases run : first world with
  | mk result middle =>
      apply ensures_of_eq run
      cases result with
      | ok value => exact leaves value middle
      | error abort =>
          intro value impossible
          cases impossible

end Dial

namespace Socket

variable {γ : Type} {view : Link → γ}

theorem update_keeps (change : Link → Link) (socket : Socket)
    (same : ∀ link, view (change link) = view link) :
    (socket.update change).Keeps socket view := by
  intro world
  change socket.Kept view world { world with links := world.links.modify socket.id change }
  constructor
  · intro id other
    exact List.getElem?_modify_ne _ _ (Ne.symm other)
  · rw [List.getElem?_modify_eq]
    cases world.links[socket.id]? with
    | none => rfl
    | some link => exact congrArg some (same link)

theorem receive_still (limit : Option Duration) (size : Nat) (arrival : Arrival) :
    (receive limit size arrival).Still := fun _ => rfl

/-- A read that arrives is noted on the connection. -/
private theorem noted_keeps (limit : Option Duration) (size : Nat) (arrival : Arrival)
    (change : Bytes → Link → Link) (socket : Socket)
    (same : ∀ bytes link, view (change bytes link) = view link) : Dial.Keeps (do
      let result ← receive limit size arrival
      if let .ok bytes := result then socket.update (change bytes)
      return result) socket view := by
  apply Dial.keeps_bind (.of_still (receive_still limit size arrival))
  intro result
  cases result with
  | error fault => exact Dial.keeps_pure
  | ok bytes =>
      apply Dial.keeps_bind (update_keeps _ socket (same bytes))
      intro _
      exact Dial.keeps_pure

theorem read_keeps (hides : Link.HidesHearing view) (size : Nat) (socket : Socket) :
    (socket.read size).Keeps socket view := by
  apply Dial.keeps_get
  intro world
  cases world.links[socket.id]? with
  | none => exact Dial.keeps_pure
  | some link =>
      dsimp only
      split
      · exact Dial.keeps_pure
      · exact noted_keeps _ size _
          (fun bytes other => { other with received := link.received + bytes.length }) socket
          fun _ other => hides.received other _

theorem pour_keeps (flow : Outflow) (note : Bytes → Link → Link) (socket : Socket)
    (same : ∀ sent link, view (note sent link) = view link) :
    (socket.pour flow note).Keeps socket view := by
  apply Dial.keeps_bind (.of_still (Dial.still_wait _))
  intro _
  apply Dial.keeps_bind (update_keeps _ socket (same flow.sent))
  intro _
  exact Dial.keeps_pure

theorem write_keeps (hides : Link.HidesTalk view) (bytes : Bytes) (socket : Socket) :
    (socket.write bytes).Keeps socket view := by
  apply Dial.keeps_get
  intro world
  cases world.links[socket.id]? with
  | none => exact Dial.keeps_pure
  | some link =>
      dsimp only
      split
      · exact Dial.keeps_pure
      · exact pour_keeps _ _ socket fun sent other => hides.sent other sent

theorem readProtected_keeps (hides : Link.HidesProtection view) (size : Nat) (socket : Socket) :
    (socket.readProtected size).Keeps socket view := by
  apply Dial.keeps_get
  intro world
  cases world.links[socket.id]? with
  | none => exact Dial.keeps_pure
  | some link =>
      dsimp only
      cases link.tls with
      | none => exact Dial.keeps_pure
      | some protection =>
          dsimp only
          split
          · exact Dial.keeps_pure
          · exact noted_keeps _ size _ (fun bytes other => { other with
              tls := some (protection.1, protection.2.1, protection.2.2 + bytes.length) }) socket
              fun _ other => hides.tls other _

theorem writeProtected_keeps (hides : Link.HidesProtection view) (bytes : Bytes)
    (socket : Socket) : (socket.writeProtected bytes).Keeps socket view := by
  apply Dial.keeps_get
  intro world
  cases world.links[socket.id]? with
  | none => exact Dial.keeps_pure
  | some link =>
      dsimp only
      cases link.tls with
      | none => exact Dial.keeps_pure
      | some protection =>
          dsimp only
          split
          · exact Dial.keeps_pure
          · exact pour_keeps _ _ socket fun _ other => hides.tls other _

end Socket

namespace RawStream

variable {γ : Type} {view : Link → γ}

theorem setLimit_keeps (hides : Link.HidesHearing view) (limit : Option Duration)
    (raw : RawStream) : (raw.setLimit limit).Keeps raw.socket view := by
  apply Dial.keeps_bind (Socket.update_keeps _ raw.socket fun link => hides.readLimit link limit)
  intro _
  exact Socket.update_keeps _ raw.socket fun link => hides.writeLimit link limit

theorem read_gives (size : Nat) (raw : RawStream) :
    (raw.read size).Gives fun outcome => outcome.2.socket = raw.socket := by
  cases raw with
  | direct socket =>
      apply Dial.gives_bind
      intro result
      exact Dial.gives_pure rfl
  | tunneled stream =>
      have inner : (stream.read readSocket size).Gives fun outcome =>
          outcome.2.inner = stream.inner := by
        unfold Rewind.read
        split
        · have reads : (readSocket size stream.inner).Gives fun outcome =>
              outcome.2 = stream.inner := by
            apply Dial.gives_bind
            intro result
            exact Dial.gives_pure rfl
          refine Dial.gives_bind_of reads ?_
          intro outcome same
          exact Dial.gives_pure same
        · exact Dial.gives_pure rfl
      refine Dial.gives_bind_of inner ?_
      intro outcome same
      exact Dial.gives_pure same

theorem read_keeps (hides : Link.HidesHearing view) (size : Nat) (raw : RawStream) :
    (raw.read size).Keeps raw.socket view := by
  cases raw with
  | direct socket =>
      apply Dial.keeps_bind (socket.read_keeps hides size)
      intro result
      exact Dial.keeps_pure
  | tunneled stream =>
      have inner : (stream.read readSocket size).Keeps stream.inner view := by
        unfold Rewind.read
        split
        · apply Dial.keeps_bind
          · apply Dial.keeps_bind (stream.inner.read_keeps hides size)
            intro result
            exact Dial.keeps_pure
          · intro outcome
            exact Dial.keeps_pure
        · exact Dial.keeps_pure
      apply Dial.keeps_bind inner
      intro outcome
      exact Dial.keeps_pure

end RawStream

namespace Connection

variable {γ : Type} {view : Link → γ}

theorem setLimit_keeps (hides : Link.HidesHearing view) (limit : Option Duration)
    (connection : Connection) : (connection.setLimit limit).Keeps connection.socket view :=
  connection.transport.raw.setLimit_keeps hides limit

theorem write_keeps (hides : Link.HidesProtection view) (bytes : Bytes)
    (connection : Connection) : (connection.write bytes).Keeps connection.socket view := by
  unfold write socket
  cases connection.transport with
  | plain raw => exact raw.socket.write_keeps hides.toHidesTalk bytes
  | tls raw session => exact raw.socket.writeProtected_keeps hides bytes

theorem read_gives (size : Nat) (connection : Connection) :
    (connection.read size).Gives fun outcome => outcome.2.socket = connection.socket := by
  unfold read socket
  cases transport : connection.transport with
  | plain raw =>
      refine Dial.gives_bind_of (raw.read_gives size) ?_
      intro outcome same
      exact Dial.gives_pure same
  | tls raw session =>
      dsimp only
      cases session.pending with
      | some alert => exact Dial.gives_pure (by rw [transport])
      | none =>
          apply Dial.gives_bind
          intro result
          exact Dial.gives_pure (by rw [transport])

theorem read_keeps (hides : Link.HidesProtection view) (size : Nat) (connection : Connection) :
    (connection.read size).Keeps connection.socket view := by
  unfold read socket
  cases connection.transport with
  | plain raw =>
      apply Dial.keeps_bind (raw.read_keeps hides.toHidesHearing size)
      intro outcome
      exact Dial.keeps_pure
  | tls raw session =>
      dsimp only
      cases session.pending with
      | some alert => exact Dial.keeps_pure
      | none =>
          apply Dial.keeps_bind (raw.socket.readProtected_keeps hides size)
          intro result
          exact Dial.keeps_pure

end Connection

end ProxyDial
