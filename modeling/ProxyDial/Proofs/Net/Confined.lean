import ProxyDial.Proofs.Net.Kept
import ProxyDial.Proofs.Net.Uses

set_option autoImplicit false

/-! What the uses of a connection depend on. They give the same, and make the same of the
connection, in any two worlds that have the same connection in its place. -/

namespace ProxyDial
open Text

/-- The socket leads to the same connection in both worlds, if to any. -/
def Socket.Alike (socket : Socket) (one other : World) : Prop :=
  one.links[socket.id]? = other.links[socket.id]?

theorem Socket.Alike.link {socket : Socket} {one other : World} (alike : socket.Alike one other) :
    one.links[socket.id]? = other.links[socket.id]? :=
  alike

namespace Dial

variable {α β : Type} {socket : Socket}

/-- Worlds that are alike for the socket are told the same, and left alike. -/
def Confined (dial : Dial α) (socket : Socket) : Prop :=
  ∀ one other : World, socket.Alike one other →
    (dial one).1 = (dial other).1 ∧ socket.Alike (dial one).2 (dial other).2

theorem confined_pure (value : α) : Confined (pure value) socket :=
  fun _ _ alike => ⟨rfl, alike⟩

/-- The second step may rely on what the first one returns. -/
theorem confined_bind_of {first : Dial α} {next : α → Dial β} {good : α → Prop}
    (confined : first.Confined socket) (gives : first.Gives good)
    (rest : ∀ value, good value → (next value).Confined socket) :
    Confined (first >>= next) socket := by
  intro one other alike
  obtain ⟨same, behind⟩ := confined one other alike
  rw [bind_run, bind_run]
  cases ran : first one with
  | mk result left =>
      have found := (gives one).of_run ran
      cases ranOther : first other with
      | mk resultOther leftOther =>
          rw [ran, ranOther] at same behind
          dsimp only at same behind
          subst same
          cases result with
          | ok value => exact rest value (found value rfl) left leftOther behind
          | error abort => exact ⟨rfl, behind⟩

theorem confined_bind {first : Dial α} {next : α → Dial β} (confined : first.Confined socket)
    (rest : ∀ value, (next value).Confined socket) : Confined (first >>= next) socket := by
  have anything : first.Gives fun _ => True := fun _ _ _ => trivial
  exact confined_bind_of confined anything fun value _ => rest value

/-- Where nothing but the time changes, the connections stay alike. -/
theorem confined_wait (duration : Duration) : Confined (modify (World.wait duration)) socket :=
  fun _ _ alike => ⟨rfl, alike⟩

/-- What is looked up is the connection of the socket alone. -/
theorem confined_get {next : World → Dial β}
    (reads : ∀ one other, socket.Alike one other → next one = next other)
    (rest : ∀ world, (next world).Confined socket) : Confined (get >>= next) socket := by
  intro one other alike
  have confined := rest one one other alike
  change (next one one).1 = (next other other).1 ∧
    socket.Alike (next one one).2 (next other other).2
  rwa [← reads one other alike]

end Dial

open Dial

namespace Socket

variable (socket : Socket)

theorem update_confined (change : Link → Link) : (socket.update change).Confined socket := by
  intro one other alike
  refine ⟨rfl, ?_⟩
  change (one.links.modify socket.id change)[socket.id]? =
    (other.links.modify socket.id change)[socket.id]?
  rw [List.getElem?_modify_eq, List.getElem?_modify_eq, alike]

theorem receive_confined (limit : Option Duration) (size : Nat) (arrival : Arrival) :
    (receive limit size arrival).Confined socket :=
  confined_bind (confined_wait _) fun _ => confined_pure _

/-- A read that arrives is noted on the connection. -/
private theorem noted_confined (limit : Option Duration) (size : Nat) (arrival : Arrival)
    (change : Bytes → Link → Link) : Confined (do
      let result ← receive limit size arrival
      if let .ok bytes := result then socket.update (change bytes)
      return result) socket := by
  apply confined_bind (socket.receive_confined limit size arrival)
  intro result
  cases result with
  | error fault => exact confined_pure _
  | ok bytes => exact confined_bind (socket.update_confined _) fun _ => confined_pure _

theorem read_confined (size : Nat) : (socket.read size).Confined socket := by
  apply confined_get
  · intro one other alike
    simp only [alike.link]
  intro world
  cases world.links[socket.id]? with
  | none => exact confined_pure _
  | some link =>
      dsimp only
      split
      · exact confined_pure _
      · exact socket.noted_confined _ size _
          fun bytes other => { other with received := link.received + bytes.length }

theorem pour_confined (flow : Outflow) (note : Bytes → Link → Link) :
    (socket.pour flow note).Confined socket := by
  apply confined_bind (confined_wait _)
  intro _
  exact confined_bind (socket.update_confined _) fun _ => confined_pure _

theorem write_confined (bytes : Bytes) : (socket.write bytes).Confined socket := by
  apply confined_get
  · intro one other alike
    simp only [alike.link]
  intro world
  cases world.links[socket.id]? with
  | none => exact confined_pure _
  | some link =>
      dsimp only
      split
      · exact confined_pure _
      · exact socket.pour_confined _ _

theorem readProtected_confined (size : Nat) : (socket.readProtected size).Confined socket := by
  apply confined_get
  · intro one other alike
    simp only [alike.link]
  intro world
  cases world.links[socket.id]? with
  | none => exact confined_pure _
  | some link =>
      dsimp only
      cases link.tls with
      | none => exact confined_pure _
      | some protection =>
          dsimp only
          split
          · exact confined_pure _
          · exact socket.noted_confined _ size _ fun bytes other => { other with
              tls := some (protection.1, protection.2.1, protection.2.2 + bytes.length) }

theorem writeProtected_confined (bytes : Bytes) :
    (socket.writeProtected bytes).Confined socket := by
  apply confined_get
  · intro one other alike
    simp only [alike.link]
  intro world
  cases world.links[socket.id]? with
  | none => exact confined_pure _
  | some link =>
      dsimp only
      cases link.tls with
      | none => exact confined_pure _
      | some protection =>
          dsimp only
          split
          · exact confined_pure _
          · exact socket.pour_confined _ _

end Socket

namespace RawStream

theorem read_confined (size : Nat) (raw : RawStream) :
    (raw.read size).Confined raw.socket := by
  cases raw with
  | direct socket => exact confined_bind (socket.read_confined size) fun _ => confined_pure _
  | tunneled stream =>
      have inner : (stream.read readSocket size).Confined stream.inner := by
        unfold Rewind.read
        split
        · apply confined_bind
          · exact confined_bind (stream.inner.read_confined size) fun _ => confined_pure _
          · intro outcome
            exact confined_pure _
        · exact confined_pure _
      exact confined_bind inner fun _ => confined_pure _

end RawStream

namespace Connection

theorem read_confined (size : Nat) (connection : Connection) :
    (connection.read size).Confined connection.socket := by
  unfold read socket
  cases connection.transport with
  | plain raw => exact confined_bind (raw.read_confined size) fun _ => confined_pure _
  | tls raw session =>
      dsimp only
      cases session.pending with
      | some alert => exact confined_pure _
      | none =>
          exact confined_bind (raw.socket.readProtected_confined size) fun _ => confined_pure _

theorem write_confined (bytes : Bytes) (connection : Connection) :
    (connection.write bytes).Confined connection.socket := by
  unfold write socket
  cases connection.transport with
  | plain raw => exact raw.socket.write_confined bytes
  | tls raw session => exact raw.socket.writeProtected_confined bytes

/-- What comes of reads and writes on a connection, one after the other. -/
def talk : List Use → Connection → Dial (List (Except Fault Bytes))
  | [], _ => return []
  | .read size :: uses, connection => do
      let (result, connection) ← connection.read size
      return result :: (← talk uses connection)
  | .write bytes :: uses, connection => do
      let result ← connection.write bytes
      return result.map (fun _ => []) :: (← talk uses connection)

theorem talk_confined (uses : List Use) (connection : Connection) :
    (connection.talk uses).Confined connection.socket := by
  induction uses generalizing connection with
  | nil => exact confined_pure _
  | cons use uses ih =>
      cases use with
      | read size =>
          refine confined_bind_of (connection.read_confined size) (connection.read_gives size) ?_
          intro outcome same
          obtain ⟨result, behind⟩ := outcome
          have later := ih behind
          rw [same] at later
          exact confined_bind later fun _ => confined_pure _
      | write bytes =>
          apply confined_bind (connection.write_confined bytes)
          intro result
          exact confined_bind (ih connection) fun _ => confined_pure _

end Connection

end ProxyDial
