import ProxyDial.Proofs.Dial.Sockets

set_option autoImplicit false

/-! Dials leave the resolver for all alone. They ask it, but none of them installs another one,
however they end. -/

namespace ProxyDial
open Text

/-- The resolver that is asked: the given one, else the one for all. -/
def World.resolver (given : Option Resolver) (world : World) : Resolver :=
  given.getD (world.installed.getD .system)

namespace Dial

variable {α β : Type}

theorem keepsResolver_bind {first : Dial α} {next : α → Dial β} (keeps : first.KeepsResolver)
    (rest : ∀ value, (next value).KeepsResolver) : KeepsResolver (first >>= next) := by
  intro world
  apply ensures_bind
  refine (keeps world).mono ?_
  intro result middle same
  cases result with
  | error abort => exact same
  | ok value => exact (rest value middle).mono fun _ _ later => later.trans same

theorem keepsResolver_attempt {dial : Dial α} (keeps : dial.KeepsResolver) :
    (attempt dial).KeepsResolver := by
  intro world
  have same := keeps world
  unfold Ensures attempt at *
  cases outcome : dial world with
  | mk result behind =>
      rw [outcome] at same
      cases result with
      | ok value => exact same
      | error abort => cases abort <;> exact same

end Dial

open Dial

theorem ProxyDialer.dialAddress_keepsResolver (dialer : ProxyDialer) (address : String) :
    (dialer.dialAddress address).KeepsResolver := by
  apply keepsResolver_bind (keepsResolver_of_lasts (lasts_ofExcept _))
  intro destination
  cases dialer.proxy.scheme with
  | http => exact (Http.dial_timed dialer.proxy destination).budgeted.keepsResolver dialer.options
  | socks5 =>
      exact (Socks.dial_timed dialer.proxy destination).budgeted.keepsResolver dialer.options

theorem connectAny_keepsResolver (addresses : List SocketAddress) (options : DialOptions) :
    (connectAny addresses options).KeepsResolver :=
  (connectAny_budgeted addresses).keepsResolver options

theorem Connection.protect_keepsResolver (config : TlsConfig) (options : DialOptions)
    (connection : Connection) : (connection.protect config options).KeepsResolver :=
  (connection.protect_budgeted config).keepsResolver options

theorem ProxiedResolver.lookup_keepsResolver (resolver : ProxiedResolver) (host : String)
    (port : UInt16) : (resolver.lookup host port).KeepsResolver :=
  (lookup_budgeted resolver.nameserver resolver.dialer.proxy host port).keepsResolver
    resolver.dialer.options

theorem Resolver.lookup_keepsResolver (resolver : Resolver) (host : String) (port : UInt16) :
    (resolver.lookup host port).KeepsResolver := by
  cases resolver with
  | system => exact keepsResolver_of_lasts (systemLookup_lasts host port)
  | proxied resolver => exact resolver.lookup_keepsResolver host port
  | custom name answer =>
      apply keepsResolver_bind
      · intro world
        rfl
      · intro _
        exact keepsResolver_of_lasts (lasts_then (lasts_awaitLookup host) fun _ => lasts_ofExcept _)

theorem DirectDialer.dial_keepsResolver (dialer : DirectDialer) (address : String) :
    (dialer.dial address).KeepsResolver := by
  apply keepsResolver_bind (keepsResolver_of_lasts (lasts_ofExcept _))
  intro destination
  have through (resolver : Resolver) : Dial.KeepsResolver (do
      let addresses ← resolver.lookup destination.host destination.port
      let socket ← connectAny addresses dialer.options
      return (⟨.plain (.direct socket), destination.authority⟩ : Connection)) := by
    apply keepsResolver_bind (resolver.lookup_keepsResolver destination.host destination.port)
    intro addresses
    apply keepsResolver_bind (connectAny_keepsResolver addresses dialer.options)
    intro socket
    exact keepsResolver_of_lasts lasts_pure
  cases dialer.resolver with
  | some resolver => exact through resolver
  | none => exact keepsResolver_bind (fun _ => rfl) through

theorem Candidates.walk_keepsResolver {dial : String → Dial Connection}
    (keeps : ∀ candidate, (dial candidate).KeepsResolver) (all : List String)
    (failures : List (String × String)) (left : List String) :
    (walk dial all failures left).KeepsResolver := by
  induction left generalizing failures with
  | nil => exact keepsResolver_of_lasts lasts_fail
  | cons candidate rest ih =>
      apply keepsResolver_bind (keepsResolver_attempt (keeps candidate))
      intro outcome
      cases outcome with
      | ok connection => exact keepsResolver_of_lasts lasts_pure
      | error error => exact ih _

theorem firstReachable_keepsResolver {dial : String → Dial Connection}
    (keeps : ∀ candidate, (dial candidate).KeepsResolver) (candidates : Candidates) :
    (firstReachable candidates dial).KeepsResolver := by
  unfold firstReachable
  split
  · exact keepsResolver_of_lasts lasts_fail
  · exact Candidates.walk_keepsResolver keeps _ _ _

/-- A connection that is dialed and then protected, where that is asked for. -/
theorem Dial.keepsResolver_protectWith {dial : Dial Connection} (keeps : dial.KeepsResolver)
    (tls : Option TlsConfig) (options : DialOptions) : KeepsResolver (do
      let connection ← dial
      match tls with
      | some tls => connection.protect tls options
      | none => return connection) := by
  apply keepsResolver_bind keeps
  intro connection
  cases tls with
  | some tls => exact connection.protect_keepsResolver tls options
  | none => exact keepsResolver_of_lasts lasts_pure

theorem HostDialer.dial_keepsResolver (dialer : HostDialer) (candidates : Candidates) :
    (dialer.dial candidates).KeepsResolver :=
  keepsResolver_protectWith
    (firstReachable_keepsResolver dialer.dialer.dialAddress_keepsResolver candidates) _ _

namespace ClusterConfig

theorem dialAddress_keepsResolver (config : ClusterConfig) (address : String) :
    (config.dialAddress address).KeepsResolver := by
  unfold dialAddress
  cases config.dialer with
  | some dialer => exact dialer.dialAddress_keepsResolver address
  | none => exact DirectDialer.dial_keepsResolver _ address

theorem openConnection_keepsResolver (config : ClusterConfig) :
    config.openConnection.KeepsResolver := by
  unfold openConnection
  cases config.hostDialer with
  | some dialer => exact dialer.dial_keepsResolver config.contactPoints
  | none =>
      apply firstReachable_keepsResolver
      intro address
      exact keepsResolver_protectWith (config.dialAddress_keepsResolver address) _ _

end ClusterConfig

end ProxyDial
