import ProxyDial.Cluster.Config
import ProxyDial.Proofs.Dial.Outcome

set_option autoImplicit false

/-! Which dials hand out protected connections. A tunnel and a direct connection are plain; one that
has been protected is not, and the walk over candidates changes nothing about that. -/

namespace ProxyDial

/-- An attempt returns what the dial returns, or an error. -/
theorem Dial.gives_attempt {α : Type} {dial : Dial α} {good : α → Prop} (gives : dial.Gives good) :
    dial.attempt.Gives fun outcome => ∀ value, outcome = .ok value → good value := by
  intro world returned same
  have found := gives world
  unfold Dial.Ensures at found
  unfold Dial.attempt at same
  cases outcome : dial world with
  | mk result behind =>
      rw [outcome] at same found
      cases result with
      | ok value =>
          cases same
          intro value' same'
          cases same'
          exact found value rfl
      | error abort =>
          cases abort with
          | failed error =>
              cases same
              intro value impossible
              cases impossible
          | clockOverflow => cases same

theorem Http.dial_gives_plain (proxy : Proxy) (destination : Destination) (options : DialOptions) :
    (Http.dial proxy destination options).Gives (·.isTls = false) := by
  apply Dial.gives_bind
  intro started
  apply Dial.gives_bind
  intro socket
  apply Dial.gives_bind
  intro raw
  exact Dial.gives_pure rfl

theorem Socks.dial_gives_plain (proxy : Proxy) (destination : Destination) (options : DialOptions) :
    (Socks.dial proxy destination options).Gives (·.isTls = false) := by
  apply Dial.gives_bind
  intro started
  apply Dial.gives_bind
  intro socket
  apply Dial.gives_bind
  intro outcome
  cases outcome with
  | error error =>
      apply Dial.gives_bind
      intro closed
      exact Dial.gives_fail
  | ok done =>
      apply Dial.gives_bind
      intro cleared
      apply Dial.gives_bind
      intro cleared
      exact Dial.gives_pure rfl

theorem ProxyDialer.dialAddress_gives_plain (dialer : ProxyDialer) (address : String) :
    (dialer.dialAddress address).Gives (·.isTls = false) := by
  apply Dial.gives_bind
  intro destination
  cases dialer.proxy.scheme with
  | http => exact Http.dial_gives_plain dialer.proxy destination dialer.options
  | socks5 => exact Socks.dial_gives_plain dialer.proxy destination dialer.options

theorem DirectDialer.dial_gives_plain (dialer : DirectDialer) (address : String) :
    (dialer.dial address).Gives (·.isTls = false) := by
  apply Dial.gives_bind
  intro destination
  have behind (resolver : Resolver) : Dial.Gives (do
      let addresses ← resolver.lookup destination.host destination.port
      let socket ← connectAny addresses dialer.options
      return (⟨.plain (.direct socket), destination.authority⟩ : Connection))
      (·.isTls = false) := by
    apply Dial.gives_bind
    intro addresses
    apply Dial.gives_bind
    intro socket
    exact Dial.gives_pure rfl
  cases dialer.resolver with
  | some resolver => exact Dial.gives_bind behind
  | none => exact Dial.gives_bind behind

theorem Transport.protect_gives_tls (host : String) (config : TlsConfig) (options : DialOptions)
    (transport : Transport) :
    (transport.protect host config options).Gives (·.isTls = true) := by
  apply Dial.gives_bind
  intro started
  cases transport with
  | tls raw session =>
      apply Dial.gives_bind
      intro closed
      exact Dial.gives_fail
  | plain raw =>
      apply Dial.gives_bind
      intro outcome
      cases outcome with
      | ok session => exact Dial.gives_pure rfl
      | error error =>
          apply Dial.gives_bind
          intro closed
          exact Dial.gives_fail

theorem Connection.protect_gives_tls (config : TlsConfig) (options : DialOptions)
    (connection : Connection) : (connection.protect config options).Gives (·.isTls = true) := by
  apply Dial.gives_bind
  intro started
  cases Destination.parse connection.address with
  | error error =>
      apply Dial.gives_bind
      intro closed
      exact Dial.gives_fail
  | ok destination =>
      refine Dial.gives_bind_of
        (Transport.protect_gives_tls destination.host config started connection.transport) ?_
      intro transport isTls
      exact Dial.gives_pure isTls

/-- What every candidate's dial returns is what the walk returns. -/
theorem Candidates.walk_gives {dial : String → Dial Connection} {good : Connection → Prop}
    (gives : ∀ candidate, (dial candidate).Gives good) (all : List String)
    (failures : List (String × String)) (left : List String) :
    (Candidates.walk dial all failures left).Gives good := by
  induction left generalizing failures with
  | nil => exact Dial.gives_fail
  | cons candidate rest ih =>
      refine Dial.gives_bind_of (Dial.gives_attempt (gives candidate)) ?_
      intro outcome found
      cases outcome with
      | ok connection => exact Dial.gives_pure (found connection rfl)
      | error error => exact ih _

theorem firstReachable_gives {dial : String → Dial Connection} {good : Connection → Prop}
    (gives : ∀ candidate, (dial candidate).Gives good) (candidates : Candidates) :
    (firstReachable candidates dial).Gives good := by
  unfold firstReachable
  split
  · exact Dial.gives_fail
  · exact Candidates.walk_gives gives _ _ _

theorem HostDialer.dial_gives (dialer : HostDialer) (candidates : Candidates) :
    (dialer.dial candidates).Gives fun connection => connection.isTls = dialer.tls.isSome := by
  refine Dial.gives_bind_of
    (firstReachable_gives dialer.dialer.dialAddress_gives_plain candidates) ?_
  intro connection plain
  cases dialer.tls with
  | none => exact Dial.gives_pure plain
  | some tls => exact connection.protect_gives_tls tls dialer.dialer.options

namespace ClusterConfig

/-- What the way in which connections are dialed protects them with. -/
def protection (config : ClusterConfig) : Option TlsConfig :=
  match config.hostDialer with
  | some dialer => dialer.tls
  | none => config.tls

theorem dialAddress_gives_plain (config : ClusterConfig) (address : String) :
    (config.dialAddress address).Gives (·.isTls = false) := by
  unfold dialAddress
  cases config.dialer with
  | some dialer => exact dialer.dialAddress_gives_plain address
  | none => exact DirectDialer.dial_gives_plain _ address

theorem openAddress_gives (config : ClusterConfig) (address : String) :
    (config.openAddress address).Gives fun connection => connection.isTls = config.tls.isSome := by
  refine Dial.gives_bind_of (config.dialAddress_gives_plain address) ?_
  intro connection plain
  cases config.tls with
  | none => exact Dial.gives_pure plain
  | some tls => exact connection.protect_gives_tls tls config.options

/-- A connection is protected exactly when the way in which it is dialed has a protection. -/
theorem openConnection_gives (config : ClusterConfig) :
    config.openConnection.Gives fun connection =>
      connection.isTls = config.protection.isSome := by
  unfold openConnection protection
  cases config.hostDialer with
  | some dialer => exact dialer.dial_gives config.contactPoints
  | none => exact firstReachable_gives config.openAddress_gives config.contactPoints

end ClusterConfig

end ProxyDial
