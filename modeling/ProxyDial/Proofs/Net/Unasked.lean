import ProxyDial.Net.Connect
import ProxyDial.Net.Stream
import ProxyDial.Proofs.Net.Talk

set_option autoImplicit false

/-! Steps that have nothing to do with resolvers. Neither the resolver for all nor what custom ones
have been asked is looked at by them or changed, so that worlds which differ in these alone are told
the same, and stay as they are in all else. -/

namespace ProxyDial
open Text

/-- The world with another resolver for all, and with other questions asked of custom ones. -/
def World.withResolvers (world : World) (installed : Option Resolver)
    (asked : List (String × UInt16)) : World :=
  { world with installed := installed, asked := asked }

namespace Dial

variable {α β : Type}

/-- Whatever resolver is installed for all, and whatever custom ones have been asked, the dial comes
to the same, and leaves both as they are. -/
def AsksNobody (dial : Dial α) : Prop :=
  ∀ world installed asked, dial (world.withResolvers installed asked) =
    ((dial world).1, (dial world).2.withResolvers installed asked)

theorem asksNobody_pure (value : α) : AsksNobody (pure value) := fun _ _ _ => rfl

theorem asksNobody_fail (error : Error) : AsksNobody (fail error : Dial α) := fun _ _ _ => rfl

theorem asksNobody_bind {first : Dial α} {next : α → Dial β} (silent : first.AsksNobody)
    (rest : ∀ value, (next value).AsksNobody) : AsksNobody (first >>= next) := by
  intro world installed asked
  rw [bind_run, bind_run, silent world installed asked]
  cases first world with
  | mk result middle =>
      cases result with
      | ok value => exact rest value middle installed asked
      | error abort => rfl

/-- What is looked up in the world is not the resolvers. -/
theorem asksNobody_get {next : World → Dial β}
    (blind : ∀ world installed asked, next (world.withResolvers installed asked) = next world)
    (rest : ∀ world, (next world).AsksNobody) : AsksNobody (get >>= next) := by
  intro world installed asked
  change next (world.withResolvers installed asked) (world.withResolvers installed asked) = _
  rw [blind]
  exact rest world world installed asked

theorem asksNobody_ofExcept (outcome : Except Error α) : AsksNobody (ofExcept outcome) := by
  cases outcome with
  | ok value => exact asksNobody_pure value
  | error error => exact asksNobody_fail error

theorem asksNobody_orFail (classify : Fault → Error) (outcome : Except Fault α) :
    AsksNobody (orFail classify outcome) := by
  cases outcome with
  | ok value => exact asksNobody_pure value
  | error fault => exact asksNobody_fail _

theorem asksNobody_attempt {dial : Dial α} (silent : dial.AsksNobody) :
    AsksNobody (attempt dial) := by
  intro world installed asked
  unfold attempt
  rw [silent world installed asked]
  cases dial world with
  | mk result behind =>
      cases result with
      | ok value => rfl
      | error abort => cases abort <;> rfl

theorem asksNobody_look (kind : Ask.Kind) (options : DialOptions) :
    (look kind options).AsksNobody := fun _ _ _ => rfl

theorem asksNobody_started (options : DialOptions) : (started options).AsksNobody := by
  apply asksNobody_bind (asksNobody_look .starts options)
  intro now
  cases options.started? now with
  | some begun => exact asksNobody_pure begun
  | none => exact fun _ _ _ => rfl

theorem asksNobody_budget (options : DialOptions) : (budget options).AsksNobody :=
  asksNobody_bind (asksNobody_look .draws options) fun _ => asksNobody_ofExcept _

theorem asksNobody_wait (duration : Duration) : AsksNobody (modify (World.wait duration)) :=
  fun _ _ _ => rfl

theorem asksNobody_calendarTime : calendarTime.AsksNobody := fun _ _ _ => rfl

theorem asksNobody_drawNumber : drawNumber.AsksNobody := fun _ _ _ => rfl

end Dial

open Dial

namespace Socket

variable (socket : Socket)

theorem update_asksNobody (change : Link → Link) : (socket.update change).AsksNobody :=
  fun _ _ _ => rfl

theorem receive_asksNobody (limit : Option Duration) (size : Nat) (arrival : Arrival) :
    (receive limit size arrival).AsksNobody :=
  asksNobody_bind (asksNobody_wait _) fun _ => asksNobody_pure _

/-- What is received may be noted. -/
private theorem noted_asksNobody (limit : Option Duration) (size : Nat) (arrival : Arrival)
    (change : Bytes → Link → Link) : AsksNobody (do
      let result ← receive limit size arrival
      if let .ok bytes := result then socket.update (change bytes)
      return result) := by
  apply asksNobody_bind (receive_asksNobody limit size arrival)
  intro result
  cases result with
  | error fault => exact asksNobody_pure _
  | ok bytes =>
      exact asksNobody_bind (socket.update_asksNobody _) fun _ => asksNobody_pure _

theorem read_asksNobody (size : Nat) : (socket.read size).AsksNobody := by
  apply asksNobody_get fun _ _ _ => rfl
  intro world
  cases world.links[socket.id]? with
  | none => exact asksNobody_pure _
  | some link =>
      dsimp only
      split
      · exact asksNobody_pure _
      · exact socket.noted_asksNobody _ size _
          fun bytes other => { other with received := link.received + bytes.length }

theorem pour_asksNobody (flow : Outflow) (note : Bytes → Link → Link) :
    (socket.pour flow note).AsksNobody := by
  apply asksNobody_bind (asksNobody_wait _)
  intro _
  exact asksNobody_bind (socket.update_asksNobody _) fun _ => asksNobody_pure _

theorem write_asksNobody (bytes : Bytes) : (socket.write bytes).AsksNobody := by
  apply asksNobody_get fun _ _ _ => rfl
  intro world
  cases world.links[socket.id]? with
  | none => exact asksNobody_pure _
  | some link =>
      dsimp only
      split
      · exact asksNobody_pure _
      · exact socket.pour_asksNobody _ _

theorem readProtected_asksNobody (size : Nat) : (socket.readProtected size).AsksNobody := by
  apply asksNobody_get fun _ _ _ => rfl
  intro world
  cases world.links[socket.id]? with
  | none => exact asksNobody_pure _
  | some link =>
      dsimp only
      cases link.tls with
      | none => exact asksNobody_pure _
      | some protection =>
          dsimp only
          split
          · exact asksNobody_pure _
          · exact socket.noted_asksNobody _ size _ fun bytes other => { other with
              tls := some (protection.1, protection.2.1, protection.2.2 + bytes.length) }

theorem writeProtected_asksNobody (bytes : Bytes) : (socket.writeProtected bytes).AsksNobody := by
  apply asksNobody_get fun _ _ _ => rfl
  intro world
  cases world.links[socket.id]? with
  | none => exact asksNobody_pure _
  | some link =>
      dsimp only
      cases link.tls with
      | none => exact asksNobody_pure _
      | some protection =>
          dsimp only
          split
          · exact asksNobody_pure _
          · exact socket.pour_asksNobody _ _

theorem server?_asksNobody : socket.server?.AsksNobody := fun _ _ _ => rfl

/-- What becomes of an attempt to connect depends on the network and the attempts before. -/
theorem connect_asksNobody (address : SocketAddress) (limit : Duration) :
    (connect address limit).AsksNobody := by
  intro world installed asked
  rw [connect_run, connect_run]
  have same : (world.withResolvers installed asked).network
      ((world.withResolvers installed asked).attemptCount address) address =
        world.network (world.attemptCount address) address := rfl
  rw [same]
  cases (world.network (world.attemptCount address) address).meets limit with
  | mk result time => cases result <;> rfl

end Socket

namespace RawStream

theorem setLimit_asksNobody (limit : Option Duration) (raw : RawStream) :
    (raw.setLimit limit).AsksNobody :=
  fun _ _ _ => rfl

theorem read_asksNobody (size : Nat) (raw : RawStream) : (raw.read size).AsksNobody := by
  cases raw with
  | direct socket => exact asksNobody_bind (socket.read_asksNobody size) fun _ => asksNobody_pure _
  | tunneled stream =>
      have inner : (stream.read readSocket size).AsksNobody := by
        unfold Rewind.read
        split
        · apply asksNobody_bind
          · exact asksNobody_bind (stream.inner.read_asksNobody size) fun _ => asksNobody_pure _
          · intro outcome
            exact asksNobody_pure _
        · exact asksNobody_pure _
      exact asksNobody_bind inner fun _ => asksNobody_pure _

end RawStream

namespace Connection

theorem setLimit_asksNobody (limit : Option Duration) (connection : Connection) :
    (connection.setLimit limit).AsksNobody :=
  fun _ _ _ => rfl

theorem close_asksNobody (connection : Connection) : connection.close.AsksNobody :=
  fun _ _ _ => rfl

theorem read_asksNobody (size : Nat) (connection : Connection) :
    (connection.read size).AsksNobody := by
  unfold read
  cases connection.transport with
  | plain raw => exact asksNobody_bind (raw.read_asksNobody size) fun _ => asksNobody_pure _
  | tls raw session =>
      dsimp only
      cases session.pending with
      | some alert => exact asksNobody_pure _
      | none =>
          exact asksNobody_bind (raw.socket.readProtected_asksNobody size) fun _ =>
            asksNobody_pure _

theorem write_asksNobody (bytes : Bytes) (connection : Connection) :
    (connection.write bytes).AsksNobody := by
  unfold write
  cases connection.transport with
  | plain raw => exact raw.socket.write_asksNobody bytes
  | tls raw session => exact raw.socket.writeProtected_asksNobody bytes

end Connection

/-! Connecting. A name in an address is looked up by the system. -/

theorem connectFirst_asksNobody (options : DialOptions) (last : Option Fault)
    (addresses : List SocketAddress) : (connectFirst options last addresses).AsksNobody := by
  induction addresses generalizing last with
  | nil => cases last <;> exact asksNobody_fail _
  | cons address rest ih =>
      have goesOn : (connectFirst options none (address :: rest)).AsksNobody := by
        apply asksNobody_bind (asksNobody_budget options)
        intro limit
        apply asksNobody_bind (Socket.connect_asksNobody address limit)
        intro outcome
        cases outcome with
        | error fault => exact ih (some fault)
        | ok socket =>
            dsimp only
            split
            · exact asksNobody_bind (socket.update_asksNobody _) fun _ => asksNobody_pure _
            · exact asksNobody_pure _
      cases last with
      | none => exact goesOn
      | some fault => exact goesOn

theorem connectAny_asksNobody (addresses : List SocketAddress) (options : DialOptions) :
    (connectAny addresses options).AsksNobody :=
  asksNobody_bind (asksNobody_started options) fun begun =>
    connectFirst_asksNobody begun none addresses

theorem systemAddresses_asksNobody (host : List Char) : (systemAddresses host).AsksNobody := by
  unfold systemAddresses
  split
  · exact asksNobody_pure _
  · cases IpAddress.ofChars? host with
    | some ip => exact asksNobody_pure _
    | none => exact fun _ _ _ => rfl

theorem addressesOf_asksNobody (address : String) : (addressesOf address).AsksNobody := by
  unfold addressesOf
  dsimp only
  split
  · exact asksNobody_pure _
  · exact asksNobody_pure _
  · split
    · exact asksNobody_pure _
    · exact asksNobody_bind (systemAddresses_asksNobody _) fun _ => asksNobody_pure _

theorem connectTo_asksNobody (address : String) (options : DialOptions) :
    (connectTo address options).AsksNobody := by
  apply asksNobody_bind (asksNobody_started options)
  intro begun
  apply asksNobody_bind (addressesOf_asksNobody address)
  intro outcome
  split
  · exact asksNobody_fail _
  · exact asksNobody_fail _
  · exact connectAny_asksNobody _ begun

end ProxyDial
