import ProxyDial.Cluster.Config
import ProxyDial.Proofs.Net.Unasked

set_option autoImplicit false

/-! Whoever dials through a proxy tells no name to a resolver. The proxy is given the name of the
destination, and it is the system that looks the proxy's own name up. So a lookup that goes through
a proxy does not come back to itself, even where it is the one for all. -/

namespace ProxyDial
open Text Dial

namespace Http

theorem readAnswer_asksNobody (destination : Destination) (options : DialOptions)
    (socket : Socket) (room : Nat) (answer : Bytes) :
    (readAnswer destination options socket room answer).AsksNobody := by
  induction room generalizing answer with
  | zero => exact asksNobody_fail _
  | succ room ih =>
      apply asksNobody_bind (asksNobody_budget options)
      intro limit
      apply asksNobody_bind (socket.update_asksNobody _)
      intro _
      apply asksNobody_bind (socket.read_asksNobody chunkLength)
      intro result
      apply asksNobody_bind (asksNobody_orFail _ result)
      intro chunk
      split
      · exact asksNobody_fail _
      · apply asksNobody_bind (asksNobody_ofExcept _)
        intro meaning
        cases meaning with
        | some behind => exact asksNobody_pure behind
        | none => exact ih _

theorem handshake_asksNobody (destination : Destination) (authorization : Option String)
    (options : DialOptions) (socket : Socket) :
    (handshake destination authorization options socket).AsksNobody := by
  apply asksNobody_bind (asksNobody_budget options)
  intro limit
  apply asksNobody_bind (socket.update_asksNobody _)
  intro _
  apply asksNobody_bind (socket.write_asksNobody _)
  intro result
  apply asksNobody_bind (asksNobody_orFail _ result)
  intro _
  exact readAnswer_asksNobody destination options socket _ []

theorem openTunnel_asksNobody (destination : Destination) (authorization : Option String)
    (options : DialOptions) (socket : Socket) :
    (openTunnel destination authorization options socket).AsksNobody := by
  apply asksNobody_bind (asksNobody_started options)
  intro begun
  apply asksNobody_bind
    (asksNobody_attempt (handshake_asksNobody destination authorization begun socket))
  intro outcome
  cases outcome with
  | error error => exact asksNobody_bind (socket.update_asksNobody _) fun _ => asksNobody_fail error
  | ok behind =>
      apply asksNobody_bind (socket.update_asksNobody _)
      intro _
      exact asksNobody_bind (socket.update_asksNobody _) fun _ => asksNobody_pure _

theorem dial_asksNobody (proxy : Proxy) (destination : Destination) (options : DialOptions) :
    (Http.dial proxy destination options).AsksNobody := by
  apply asksNobody_bind (asksNobody_started options)
  intro begun
  apply asksNobody_bind (connectTo_asksNobody proxy.address begun)
  intro socket
  exact asksNobody_bind (openTunnel_asksNobody destination proxy.authorization begun socket)
    fun _ => asksNobody_pure _

end Http

namespace Socks

theorem send_asksNobody (packet : Bytes) (options : DialOptions) (socket : Socket) :
    (send packet options socket).AsksNobody := by
  apply asksNobody_bind (asksNobody_budget options)
  intro limit
  apply asksNobody_bind (socket.update_asksNobody _)
  intro _
  exact asksNobody_bind (socket.write_asksNobody packet) fun result => asksNobody_orFail _ result

theorem receive_asksNobody (options : DialOptions) (socket : Socket) (count : Nat) :
    (receive options socket count).AsksNobody := by
  -- A read brings some of the bytes, and what is left is fewer than before.
  induction count using Nat.strongRecOn with
  | ind count ih =>
      cases count with
      | zero =>
          rw [receive]
          exact asksNobody_pure _
      | succ count =>
          rw [receive]
          apply asksNobody_bind (asksNobody_budget options)
          intro limit
          apply asksNobody_bind (socket.update_asksNobody _)
          intro _
          apply asksNobody_bind (socket.read_asksNobody (count + 1))
          intro result
          apply asksNobody_bind (asksNobody_orFail _ result)
          intro chunk
          cases chunk with
          | nil => exact asksNobody_fail _
          | cons byte bytes =>
              have fewer : count - bytes.length < count + 1 := by omega
              exact asksNobody_bind (ih _ fewer) fun _ => asksNobody_pure _

theorem checkVersion_asksNobody (found : UInt8) : (checkVersion found).AsksNobody := by
  unfold checkVersion
  split
  · exact asksNobody_pure ()
  · exact asksNobody_fail _

theorem authenticate_asksNobody (credentials : Credentials) (options : DialOptions)
    (socket : Socket) : (authenticate credentials options socket).AsksNobody := by
  apply asksNobody_bind (asksNobody_ofExcept _)
  intro packet
  apply asksNobody_bind (send_asksNobody packet options socket)
  intro _
  apply asksNobody_bind (receive_asksNobody options socket 2)
  intro status
  split
  · exact asksNobody_fail _
  · exact asksNobody_pure ()

theorem negotiate_asksNobody (credentials : Option Credentials) (options : DialOptions)
    (socket : Socket) : (negotiate credentials options socket).AsksNobody := by
  apply asksNobody_bind (send_asksNobody _ options socket)
  intro _
  apply asksNobody_bind (receive_asksNobody options socket 2)
  intro choice
  apply asksNobody_bind (checkVersion_asksNobody _)
  intro _
  dsimp only
  split
  · exact asksNobody_pure ()
  · split
    · cases credentials with
      | some credentials => exact authenticate_asksNobody credentials options socket
      | none => exact asksNobody_fail _
    · split
      · exact asksNobody_fail _
      · exact asksNobody_fail _

theorem boundLength_asksNobody (type : UInt8) (options : DialOptions) (socket : Socket) :
    (boundLength type options socket).AsksNobody := by
  unfold boundLength
  split
  · exact asksNobody_pure _
  · split
    · exact asksNobody_pure _
    · split
      · exact asksNobody_bind (receive_asksNobody options socket 1) fun _ => asksNobody_pure _
      · exact asksNobody_fail _

theorem readReply_asksNobody (destination : Destination) (options : DialOptions)
    (socket : Socket) : (readReply destination options socket).AsksNobody := by
  apply asksNobody_bind (receive_asksNobody options socket 4)
  intro reply
  apply asksNobody_bind (checkVersion_asksNobody _)
  intro _
  dsimp only
  split
  · exact asksNobody_fail _
  · apply asksNobody_bind (boundLength_asksNobody _ options socket)
    intro length
    exact asksNobody_bind (receive_asksNobody options socket length) fun _ => asksNobody_pure ()

theorem handshake_asksNobody (destination : Destination) (credentials : Option Credentials)
    (options : DialOptions) (socket : Socket) :
    (handshake destination credentials options socket).AsksNobody := by
  apply asksNobody_bind (asksNobody_started options)
  intro begun
  apply asksNobody_bind (negotiate_asksNobody credentials begun socket)
  intro _
  apply asksNobody_bind (asksNobody_ofExcept _)
  intro packet
  apply asksNobody_bind (send_asksNobody packet begun socket)
  intro _
  exact readReply_asksNobody destination begun socket

theorem dial_asksNobody (proxy : Proxy) (destination : Destination) (options : DialOptions) :
    (Socks.dial proxy destination options).AsksNobody := by
  apply asksNobody_bind (asksNobody_started options)
  intro begun
  apply asksNobody_bind (connectTo_asksNobody proxy.address begun)
  intro socket
  apply asksNobody_bind
    (asksNobody_attempt (handshake_asksNobody destination proxy.credentials begun socket))
  intro outcome
  cases outcome with
  | error error => exact asksNobody_bind (socket.update_asksNobody _) fun _ => asksNobody_fail error
  | ok done =>
      apply asksNobody_bind (socket.update_asksNobody _)
      intro _
      exact asksNobody_bind (socket.update_asksNobody _) fun _ => asksNobody_pure _

end Socks

namespace Tls

theorem limitStep_asksNobody (options : DialOptions) (raw : RawStream) :
    (limitStep options raw).AsksNobody :=
  asksNobody_bind (asksNobody_budget options) fun limit => raw.setLimit_asksNobody (some limit)

theorem awaitFault_asksNobody {α : Type} (host : String) (options : DialOptions) (room : Nat)
    (seen : Bytes) (raw : RawStream) :
    (awaitFault (α := α) host options room seen raw).AsksNobody := by
  induction room generalizing seen raw with
  | zero => exact asksNobody_fail _
  | succ room ih =>
      apply asksNobody_bind (limitStep_asksNobody options raw)
      intro _
      apply asksNobody_bind (raw.read_asksNobody _)
      rintro ⟨result, behind⟩
      apply asksNobody_bind (asksNobody_orFail _ result)
      intro bytes
      cases bytes with
      | nil => exact asksNobody_fail _
      | cons byte bytes =>
          dsimp only
          split
          · exact asksNobody_fail _
          · exact ih _ behind

theorem agree_asksNobody (name : ServerName) (config : TlsConfig) (server : TlsServer)
    (raw : RawStream) : (agree name config server raw).AsksNobody := by
  apply asksNobody_bind asksNobody_calendarTime
  intro time
  split
  · exact asksNobody_fail _
  · split
    · exact asksNobody_fail _
    · split
      · exact asksNobody_fail _
      · apply asksNobody_bind (raw.socket.update_asksNobody _)
        intro _
        exact asksNobody_bind (raw.setLimit_asksNobody none) fun _ => asksNobody_pure _

theorem handshake_asksNobody (host : String) (config : TlsConfig) (options : DialOptions)
    (raw : RawStream) : (handshake host config options raw).AsksNobody := by
  unfold handshake
  split
  · exact asksNobody_fail _
  next name _ =>
    apply asksNobody_bind (limitStep_asksNobody options raw)
    intro _
    apply asksNobody_bind (raw.socket.write_asksNobody helloMark)
    intro result
    apply asksNobody_bind (asksNobody_orFail _ result)
    intro _
    apply asksNobody_bind raw.socket.server?_asksNobody
    intro server
    cases server with
    | none => exact awaitFault_asksNobody host options _ [] raw
    | some server =>
        dsimp only
        split
        · exact asksNobody_bind (limitStep_asksNobody options raw) fun _ =>
            agree_asksNobody name config server raw
        · exact awaitFault_asksNobody host options _ [] raw

end Tls

theorem Transport.protect_asksNobody (host : String) (config : TlsConfig) (options : DialOptions)
    (transport : Transport) : (transport.protect host config options).AsksNobody := by
  apply asksNobody_bind (asksNobody_started options)
  intro begun
  cases transport with
  | tls raw session =>
      exact asksNobody_bind (raw.socket.update_asksNobody _) fun _ => asksNobody_fail _
  | plain raw =>
      apply asksNobody_bind (asksNobody_attempt (Tls.handshake_asksNobody host config begun raw))
      intro outcome
      cases outcome with
      | ok session => exact asksNobody_pure _
      | error error =>
          exact asksNobody_bind (raw.socket.update_asksNobody _) fun _ => asksNobody_fail error

theorem Connection.protect_asksNobody (config : TlsConfig) (options : DialOptions)
    (connection : Connection) : (connection.protect config options).AsksNobody := by
  apply asksNobody_bind (asksNobody_started options)
  intro begun
  cases Destination.parse connection.address with
  | error error => exact asksNobody_bind connection.close_asksNobody fun _ => asksNobody_fail error
  | ok destination =>
      exact asksNobody_bind
        (connection.transport.protect_asksNobody destination.host config begun) fun _ =>
          asksNobody_pure _

theorem ProxyDialer.dialAddress_asksNobody (dialer : ProxyDialer) (address : String) :
    (dialer.dialAddress address).AsksNobody := by
  apply asksNobody_bind (asksNobody_ofExcept _)
  intro destination
  cases dialer.proxy.scheme with
  | http => exact Http.dial_asksNobody dialer.proxy destination dialer.options
  | socks5 => exact Socks.dial_asksNobody dialer.proxy destination dialer.options

theorem Candidates.walk_asksNobody {dial : String → Dial Connection}
    (silent : ∀ candidate, (dial candidate).AsksNobody) (all : List String)
    (failures : List (String × String)) (left : List String) :
    (walk dial all failures left).AsksNobody := by
  induction left generalizing failures with
  | nil => exact asksNobody_fail _
  | cons candidate rest ih =>
      apply asksNobody_bind (asksNobody_attempt (silent candidate))
      intro outcome
      cases outcome with
      | ok connection => exact asksNobody_pure connection
      | error error => exact ih _

theorem firstReachable_asksNobody {dial : String → Dial Connection}
    (silent : ∀ candidate, (dial candidate).AsksNobody) (candidates : Candidates) :
    (firstReachable candidates dial).AsksNobody := by
  unfold firstReachable
  split
  · exact asksNobody_fail _
  · exact Candidates.walk_asksNobody silent _ _ _

/-- A connection that is dialed and then protected, where that is asked for. -/
theorem Dial.asksNobody_protectWith {dial : Dial Connection} (silent : dial.AsksNobody)
    (tls : Option TlsConfig) (options : DialOptions) : AsksNobody (do
      let connection ← dial
      match tls with
      | some tls => connection.protect tls options
      | none => return connection) := by
  apply asksNobody_bind silent
  intro connection
  cases tls with
  | some tls => exact connection.protect_asksNobody tls options
  | none => exact asksNobody_pure connection

theorem HostDialer.dial_asksNobody (dialer : HostDialer) (candidates : Candidates) :
    (dialer.dial candidates).AsksNobody :=
  asksNobody_protectWith
    (firstReachable_asksNobody dialer.dialer.dialAddress_asksNobody candidates) _ _

namespace ClusterConfig

/-- A dialer goes through a proxy, whichever of the two it is. -/
def GoesThroughProxy (config : ClusterConfig) : Prop :=
  config.dialer.isSome = true ∨ config.hostDialer.isSome = true

theorem openConnection_asksNobody {config : ClusterConfig} (proxied : config.GoesThroughProxy) :
    config.openConnection.AsksNobody := by
  unfold openConnection
  cases host : config.hostDialer with
  | some dialer => exact dialer.dial_asksNobody config.contactPoints
  | none =>
      apply firstReachable_asksNobody
      intro address
      refine asksNobody_protectWith ?_ _ _
      unfold dialAddress
      cases through : config.dialer with
      | some dialer => exact dialer.dialAddress_asksNobody address
      | none => simp [GoesThroughProxy, host, through] at proxied

/-- The cluster's own resolver is not looked at. -/
theorem openConnection_withResolver {config : ClusterConfig} (proxied : config.GoesThroughProxy)
    (resolver : Option Resolver) :
    { config with resolver := resolver }.openConnection = config.openConnection := by
  obtain ⟨_, _, _, _, dialer, hostDialer, _, _⟩ := config
  cases hostDialer with
  | some host => rfl
  | none =>
      cases dialer with
      | some dialer => rfl
      | none => simp [GoesThroughProxy] at proxied

end ClusterConfig

namespace ProxiedResolver

theorem receive_asksNobody (options : DialOptions) (count : Nat) (connection : Connection) :
    (receive options count connection).AsksNobody := by
  induction count using Nat.strongRecOn generalizing connection with
  | ind count ih =>
      cases count with
      | zero =>
          rw [receive]
          exact asksNobody_pure _
      | succ count =>
          rw [receive]
          apply asksNobody_bind (asksNobody_budget options)
          intro limit
          apply asksNobody_bind (connection.setLimit_asksNobody _)
          intro _
          apply asksNobody_bind (connection.read_asksNobody (count + 1))
          rintro ⟨result, behind⟩
          apply asksNobody_bind (asksNobody_orFail _ result)
          intro chunk
          cases chunk with
          | nil => exact asksNobody_fail _
          | cons byte bytes =>
              have fewer : count - bytes.length < count + 1 := by omega
              exact asksNobody_bind (ih _ fewer behind) fun _ => asksNobody_pure _

theorem exchange_asksNobody (host : String) (type : Dns.RecordType) (options : DialOptions)
    (connection : Connection) : (exchange host type options connection).AsksNobody := by
  apply asksNobody_bind asksNobody_drawNumber
  intro id
  apply asksNobody_bind (asksNobody_ofExcept _)
  intro query
  -- What follows the check that the query fits into a frame.
  extract_lets asking
  have asks (small : Unit) : (asking small).AsksNobody := by
    apply asksNobody_bind (asksNobody_budget options)
    intro limit
    apply asksNobody_bind (connection.setLimit_asksNobody _)
    intro _
    apply asksNobody_bind (connection.write_asksNobody _)
    intro result
    apply asksNobody_bind (asksNobody_orFail _ result)
    intro _
    apply asksNobody_bind (receive_asksNobody options 2 connection)
    rintro ⟨length, behind⟩
    apply asksNobody_bind (receive_asksNobody options _ behind)
    rintro ⟨answer, left⟩
    exact asksNobody_get (fun _ _ _ => rfl) fun _ => asksNobody_pure _
  split
  · exact asksNobody_bind (asksNobody_fail _) asks
  · exact asks ()

theorem queryFamilies_asksNobody (host : String) (options : DialOptions) (found : List IpAddress)
    (failed : Option Error) (types : List Dns.RecordType) (connection : Connection) :
    (queryFamilies host options found failed types connection).AsksNobody := by
  induction types generalizing found failed connection with
  | nil =>
      unfold queryFamilies
      split
      · exact asksNobody_fail _
      · exact asksNobody_pure _
  | cons type types ih =>
      apply asksNobody_bind (exchange_asksNobody host type options connection)
      rintro ⟨answer, behind⟩
      cases answer with
      | ok addresses => exact ih _ _ behind
      | error error =>
          dsimp only
          split
          · exact ih _ _ behind
          · exact asksNobody_fail error

theorem lookup_asksNobody (resolver : ProxiedResolver) (host : String) (port : UInt16) :
    (resolver.lookup host port).AsksNobody := by
  unfold lookup
  cases IpAddress.ofString? host with
  | some ip => exact asksNobody_pure _
  | none =>
      apply asksNobody_bind (asksNobody_started _)
      intro begun
      apply asksNobody_bind (ProxyDialer.dialAddress_asksNobody _ _)
      intro connection
      apply asksNobody_bind
        (asksNobody_attempt (queryFamilies_asksNobody host begun [] none _ connection))
      intro result
      apply asksNobody_bind connection.close_asksNobody
      intro _
      apply asksNobody_bind (asksNobody_ofExcept result)
      intro addresses
      cases addresses with
      | nil => exact asksNobody_fail _
      | cons address rest => exact asksNobody_pure _

end ProxiedResolver

/-- One dial where one resolver is the one for all, and another dial in the same world where another
one is: they come to the same and leave the same world, with the same connections, on which the
same has been sent. The resolver for all stays, and no custom resolver is asked for anything. -/
def Dial.SameUnder {α : Type} (one other : Dial α) (world : World)
    (installed elsewhere : Option Resolver) : Prop :=
  let first := one { world with installed := installed }
  let second := other { world with installed := elsewhere }
  first.1 = second.1 ∧ { first.2 with installed := elsewhere } = second.2 ∧
    first.2.installed = installed ∧ first.2.asked = world.asked

theorem Dial.AsksNobody.sameUnder {α : Type} {dial : Dial α} (silent : dial.AsksNobody)
    (world : World) (installed elsewhere : Option Resolver) :
    dial.SameUnder dial world installed elsewhere := by
  have first : dial { world with installed := installed } =
      ((dial world).1, (dial world).2.withResolvers installed world.asked) :=
    silent world installed world.asked
  have second : dial { world with installed := elsewhere } =
      ((dial world).1, (dial world).2.withResolvers elsewhere world.asked) :=
    silent world elsewhere world.asked
  unfold SameUnder
  rw [first, second]
  exact ⟨rfl, rfl, rfl, rfl⟩

/-- With a dialer through a proxy, neither the resolver of the cluster nor the one for all has any
part in a connection. Nor has the one for all in a lookup through a proxy, so that such a lookup
does not lead to another one where the resolver for all is the one that it is made with. -/
theorem proxied_dials_ask_nobody :
    (∀ config : ClusterConfig, config.GoesThroughProxy →
      ∀ (resolver other : Option Resolver) (world : World) (installed elsewhere : Option Resolver),
        { config with resolver := resolver }.openConnection.SameUnder
          { config with resolver := other }.openConnection world installed elsewhere) ∧
    ∀ (resolver : ProxiedResolver) (host : String) (port : UInt16) (world : World)
      (installed elsewhere : Option Resolver),
        (resolver.lookup host port).SameUnder (resolver.lookup host port) world
          installed elsewhere := by
  constructor
  · intro config proxied resolver other world installed elsewhere
    rw [config.openConnection_withResolver proxied resolver,
      config.openConnection_withResolver proxied other]
    exact (config.openConnection_asksNobody proxied).sameUnder world installed elsewhere
  · intro resolver host port world installed elsewhere
    exact (resolver.lookup_asksNobody host port).sameUnder world installed elsewhere

/-- A resolver that has one address for all names. -/
def oneForAllNames : Resolver := .custom "one" fun _ port => .ok [⟨.v4 ⟨10, 0, 0, 9⟩, port, 0⟩]

/-- One contact point that only a resolver, or a proxy, can make an address of. -/
def namedCluster : ClusterConfig :=
  { ClusterConfig.ofHosts ["db"] with resolver := some oneForAllNames }

/-- Every peer grants the tunnel that it is asked for. -/
def grantingWorld : World := { World.isolated with
  network := fun _ _ => .accepted ⟨0⟩ (.ofStream [5, 0, 5, 0, 0, 1, 0, 0, 0, 0, 0, 0] .silence) }

/-- The name of a contact point is left to the proxy. Without a proxy, the resolver is asked for it.
-/
theorem proxied_dial_asks_nobody_for_name :
    let proxied := { namedCluster with dialer := some (.ofProxy ⟨.socks5, "10.0.0.1", 1080, none⟩) }
    let world := grantingWorld
    proxied.GoesThroughProxy ∧ (proxied.openConnection world).1.isOk = true ∧
      proxied.openConnection.SameUnder { proxied with resolver := none }.openConnection world
        none (some oneForAllNames) ∧
      (namedCluster.openConnection world).2.asked = [("db", 9042)] := by
  intro proxied world
  have through : proxied.GoesThroughProxy := Or.inl rfl
  refine ⟨through, by decide +kernel, ?_, by decide +kernel⟩
  exact proxied_dials_ask_nobody.1 proxied through (some oneForAllNames) none world none
    (some oneForAllNames)

end ProxyDial
