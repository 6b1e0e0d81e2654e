import ProxyDial.Net.Stream
import ProxyDial.Proofs.Net.Talk

set_option autoImplicit false

/-! What reads and writes leave alone: all of the world but its connections, its clock and the watch
on it. -/

namespace ProxyDial
open Text

namespace Dial

variable {α β : Type}

/-- However the dial ends, it has changed nothing but the connections, the clock and its watch. -/
def KeepsHost (dial : Dial α) : Prop :=
  ∀ world, dial.Ensures world fun _ behind =>
    { behind with links := world.links, now := world.now, watch := world.watch } = world

theorem keepsHost_pure {value : α} : KeepsHost (pure value) := fun _ => rfl

theorem keepsHost_fail {error : Error} : KeepsHost (α := α) (fail error) := fun _ => rfl

theorem keepsHost_get {next : World → Dial β} (keeps : ∀ world, (next world).KeepsHost) :
    KeepsHost (get >>= next) :=
  fun world => keeps world world

theorem keepsHost_bind {first : Dial α} {next : α → Dial β} (keeps : first.KeepsHost)
    (rest : ∀ value, (next value).KeepsHost) : KeepsHost (first >>= next) := by
  intro world
  apply ensures_bind
  refine (keeps world).mono ?_
  intro result middle same
  cases result with
  | error abort => exact same
  | ok value =>
      refine (rest value middle).mono ?_
      intro result behind later
      rw [← later] at same
      exact same

theorem keepsHost_wait (duration : Duration) : KeepsHost (modify (World.wait duration)) :=
  fun _ => rfl

theorem keepsHost_ofExcept (outcome : Except Error α) : KeepsHost (ofExcept outcome) := by
  cases outcome with
  | ok value => exact keepsHost_pure
  | error error => exact keepsHost_fail

theorem keepsHost_orFail (classify : Fault → Error) (outcome : Except Fault α) :
    KeepsHost (orFail classify outcome) := by
  cases outcome with
  | ok value => exact keepsHost_pure
  | error fault => exact keepsHost_fail

theorem keepsHost_look (kind : Ask.Kind) (options : DialOptions) :
    (look kind options).KeepsHost := fun _ => rfl

theorem keepsHost_budget (options : DialOptions) : (budget options).KeepsHost := by
  apply keepsHost_bind (keepsHost_look .draws options)
  intro now
  exact keepsHost_ofExcept _

end Dial

open Dial

namespace Socket

theorem update_keepsHost (change : Link → Link) (socket : Socket) :
    (socket.update change).KeepsHost := fun _ => rfl

/-- What is received may be noted. -/
private theorem noted_keepsHost (limit : Option Duration) (size : Nat) (arrival : Arrival)
    (change : Bytes → Link → Link) (socket : Socket) : Dial.KeepsHost (do
      let result ← receive limit size arrival
      if let .ok bytes := result then socket.update (change bytes)
      return result) := by
  have waits : (receive limit size arrival).KeepsHost := fun _ => rfl
  apply keepsHost_bind waits
  intro result
  cases result with
  | error fault => exact keepsHost_pure
  | ok bytes =>
      apply keepsHost_bind (update_keepsHost _ socket)
      intro _
      exact keepsHost_pure

theorem read_keepsHost (size : Nat) (socket : Socket) : (socket.read size).KeepsHost := by
  apply keepsHost_get
  intro world
  cases world.links[socket.id]? with
  | none => exact keepsHost_pure
  | some link =>
      dsimp only
      split
      · exact keepsHost_pure
      · exact noted_keepsHost _ size _
          (fun bytes other => { other with received := link.received + bytes.length }) socket

theorem readProtected_keepsHost (size : Nat) (socket : Socket) :
    (socket.readProtected size).KeepsHost := by
  apply keepsHost_get
  intro world
  cases world.links[socket.id]? with
  | none => exact keepsHost_pure
  | some link =>
      dsimp only
      cases link.tls with
      | none => exact keepsHost_pure
      | some protection =>
          dsimp only
          split
          · exact keepsHost_pure
          · exact noted_keepsHost _ size _ (fun bytes other => { other with
              tls := some (protection.1, protection.2.1, protection.2.2 + bytes.length) }) socket

theorem pour_keepsHost (flow : Outflow) (note : Bytes → Link → Link) (socket : Socket) :
    (socket.pour flow note).KeepsHost := by
  apply keepsHost_bind (keepsHost_wait _)
  intro _
  apply keepsHost_bind (update_keepsHost _ socket)
  intro _
  exact keepsHost_pure

theorem write_keepsHost (bytes : Bytes) (socket : Socket) :
    (socket.write bytes).KeepsHost := by
  apply keepsHost_get
  intro world
  cases world.links[socket.id]? with
  | none => exact keepsHost_pure
  | some link =>
      dsimp only
      split
      · exact keepsHost_pure
      · exact pour_keepsHost _ _ socket

theorem writeProtected_keepsHost (bytes : Bytes) (socket : Socket) :
    (socket.writeProtected bytes).KeepsHost := by
  apply keepsHost_get
  intro world
  cases world.links[socket.id]? with
  | none => exact keepsHost_pure
  | some link =>
      dsimp only
      cases link.tls with
      | none => exact keepsHost_pure
      | some protection =>
          dsimp only
          split
          · exact keepsHost_pure
          · exact pour_keepsHost _ _ socket

end Socket

theorem RawStream.read_keepsHost (size : Nat) (raw : RawStream) :
    (raw.read size).KeepsHost := by
  cases raw with
  | direct socket =>
      apply keepsHost_bind (socket.read_keepsHost size)
      intro result
      exact keepsHost_pure
  | tunneled stream =>
      have inner : (stream.read readSocket size).KeepsHost := by
        unfold Rewind.read
        split
        · apply keepsHost_bind
          · apply keepsHost_bind (stream.inner.read_keepsHost size)
            intro result
            exact keepsHost_pure
          · intro outcome
            exact keepsHost_pure
        · exact keepsHost_pure
      apply keepsHost_bind inner
      intro outcome
      exact keepsHost_pure

namespace Connection

theorem setLimit_keepsHost (limit : Option Duration) (connection : Connection) :
    (connection.setLimit limit).KeepsHost := fun _ => rfl

theorem write_keepsHost (bytes : Bytes) (connection : Connection) :
    (connection.write bytes).KeepsHost := by
  unfold write
  cases connection.transport with
  | plain raw => exact raw.socket.write_keepsHost bytes
  | tls raw session => exact raw.socket.writeProtected_keepsHost bytes

theorem read_keepsHost (size : Nat) (connection : Connection) :
    (connection.read size).KeepsHost := by
  unfold read
  cases connection.transport with
  | plain raw =>
      apply keepsHost_bind (raw.read_keepsHost size)
      intro outcome
      exact keepsHost_pure
  | tls raw session =>
      dsimp only
      cases session.pending with
      | some alert => exact keepsHost_pure
      | none =>
          apply keepsHost_bind (raw.socket.readProtected_keepsHost size)
          intro result
          exact keepsHost_pure

end Connection

/-- Messages are read as before. -/
theorem Dial.KeepsHost.codec_eq {α : Type} {dial : Dial α} {world behind : World}
    {result : Except Abort α} (keeps : dial.KeepsHost) (run : dial world = (result, behind)) :
    behind.codec = world.codec := by
  have same := (keeps world).of_run run
  rw [← same]

/-- The numbers that are drawn next, one after the other. -/
def World.numbersAhead (world : World) (count : Nat) : UInt16 := world.numbers (world.drawn + count)

theorem World.numbersAhead_drawn (world : World) :
    World.numbersAhead { world with drawn := world.drawn + 1 } =
      fun count => world.numbersAhead (count + 1) := by
  funext count
  unfold numbersAhead
  rw [Nat.add_assoc, Nat.add_comm 1 count]

/-- Two hosts draw the same numbers next, and read messages alike. -/
structure World.Alike (first second : World) : Prop where
  numbers : first.numbersAhead = second.numbersAhead
  codec : first.codec = second.codec

theorem World.Alike.symm {first second : World} (alike : first.Alike second) :
    second.Alike first :=
  ⟨alike.numbers.symm, alike.codec.symm⟩

theorem World.Alike.trans {first second third : World} (alike : first.Alike second)
    (further : second.Alike third) : first.Alike third :=
  ⟨alike.numbers.trans further.numbers, alike.codec.trans further.codec⟩

theorem Dial.KeepsHost.alike {α : Type} {dial : Dial α} (keeps : dial.KeepsHost)
    (world : World) : dial.Ensures world fun _ behind => behind.Alike world := by
  refine (keeps world).mono ?_
  intro result behind same
  rw [← same]
  exact ⟨rfl, rfl⟩

end ProxyDial
