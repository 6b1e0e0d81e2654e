import ProxyDial.Proofs.Dial.Sockets

set_option autoImplicit false

/-! Dials only add connections. However a dial ends, the connections from before are in their
places, and nothing has happened on them. -/

namespace ProxyDial
open Text

namespace Dial

variable {α β : Type}

/-- However the dial ends, its connections come behind those from before, which are as they were. -/
def Grows (dial : Dial α) : Prop :=
  ∀ world, dial.Ensures world fun _ behind => world.links <+: behind.links

theorem ClosesAll.grows {dial : Dial α} (closes : dial.ClosesAll) : dial.Grows := by
  intro world
  refine (closes world).mono ?_
  rintro result behind ⟨closed, links, -⟩
  exact ⟨closed, links.symm⟩

theorem grows_of_still {dial : Dial α} (still : dial.Still) : dial.Grows :=
  (closesAll_of_still still).grows

theorem grows_bind {first : Dial α} {next : α → Dial β} (grows : first.Grows)
    (rest : ∀ value, (next value).Grows) : Grows (first >>= next) := by
  intro world
  apply ensures_bind
  refine (grows world).mono ?_
  intro result middle grown
  cases result with
  | error abort => exact grown
  | ok value => exact (rest value middle).mono fun _ _ later => grown.trans later

theorem MakesOne.grows {dial : Dial Connection} {good : (returned : Bool) → Link → Prop}
    (makes : dial.MakesOne good) : dial.Grows := by
  intro world
  refine (makes world).mono ?_
  rintro result behind (⟨same, -⟩ | ⟨socket, link, newest, -⟩)
  · exact ⟨[], by rw [same, List.append_nil]⟩
  · exact ⟨[link], newest.links.symm⟩

theorem Adds.grows {dial : Dial Socket} (adds : dial.Adds) : dial.Grows := by
  intro world
  refine (adds world).mono ?_
  intro result behind added
  cases result with
  | error abort =>
      have same : behind.links = world.links := added
      exact ⟨[], by rw [same, List.append_nil]⟩
  | ok socket =>
      obtain ⟨link, newest, -⟩ := added
      exact ⟨[link], newest.links.symm⟩

/-- What is protected is the connection that has been dialed, and no older one. -/
theorem grows_protectWith {dial : Dial Connection} (grows : dial.Grows)
    (accounts : dial.Accounts) (tls : Option TlsConfig) (options : DialOptions) : Grows (do
      let connection ← dial
      match tls with
      | some tls => connection.protect tls options
      | none => return connection) := by
  intro world
  apply ensures_bind
  cases run : dial world with
  | mk result middle =>
      have grown := (grows world).of_run run
      have found := (accounts world).of_run run
      apply ensures_of_eq run
      cases result with
      | error abort => exact grown
      | ok connection =>
          cases tls with
          | none => exact ensures_pure grown
          | some tls =>
              -- The handshake works on the newest connection, so that the older ones stay.
              obtain ⟨closed, link, newest, -, ready, -⟩ := found.newest
              refine (Connection.protect_ends tls options newest ready.isOpen).mono ?_
              rintro result behind ⟨after, stays, -⟩
              exact ⟨closed ++ [after], by rw [stays.links, List.append_assoc]⟩

end Dial

open Dial

theorem ProxyDialer.dialAddress_grows (dialer : ProxyDialer) (address : String) :
    (dialer.dialAddress address).Grows := by
  apply grows_bind (grows_of_still (still_ofExcept _))
  intro destination
  cases dialer.proxy.scheme with
  | http => exact (Http.dial_asks dialer.proxy destination dialer.options).grows
  | socks5 => exact (Socks.dial_makesOne dialer.proxy destination dialer.options).grows

theorem DirectDialer.dial_grows (dialer : DirectDialer) (address : String) :
    (dialer.dial address).Grows := by
  apply grows_bind (grows_of_still (still_ofExcept _))
  intro destination
  have through (resolver : Resolver) : Dial.Grows (do
      let addresses ← resolver.lookup destination.host destination.port
      let socket ← connectAny addresses dialer.options
      return (⟨.plain (.direct socket), destination.authority⟩ : Connection)) := by
    apply grows_bind (resolver.lookup_closesAll destination.host destination.port).grows
    intro addresses
    apply grows_bind (connectAny_adds addresses dialer.options).grows
    intro socket
    exact grows_of_still still_pure
  cases dialer.resolver with
  | some resolver => exact through resolver
  | none => exact grows_bind (grows_of_still (still_get fun _ => still_pure)) through

theorem Candidates.walk_grows {dial : String → Dial Connection}
    (grows : ∀ candidate, (dial candidate).Grows) (all : List String)
    (failures : List (String × String)) (left : List String) :
    (walk dial all failures left).Grows := by
  induction left generalizing failures with
  | nil => exact grows_of_still still_fail
  | cons candidate rest ih =>
      intro world
      have here := grows candidate world
      cases run : dial candidate world with
      | mk result middle =>
          have grown := here.of_run run
          have goes := walk_cons_run dial all failures candidate rest world
          rw [run] at goes
          cases result with
          | ok connection => exact ensures_of_eq goes grown
          | error abort =>
              cases abort with
              | clockOverflow => exact ensures_of_eq goes grown
              | failed error =>
                  unfold Dial.Ensures
                  rw [goes]
                  exact grown.trans (ih ((candidate, error.message) :: failures) middle)

theorem firstReachable_grows {dial : String → Dial Connection}
    (grows : ∀ candidate, (dial candidate).Grows) (candidates : Candidates) :
    (firstReachable candidates dial).Grows := by
  unfold firstReachable
  split
  · exact grows_of_still still_fail
  · exact Candidates.walk_grows grows _ _ _

theorem HostDialer.dial_grows (dialer : HostDialer) (candidates : Candidates) :
    (dialer.dial candidates).Grows :=
  grows_protectWith (firstReachable_grows dialer.dialer.dialAddress_grows candidates)
    (firstReachable_accounts dialer.dialer.dialAddress_accounts candidates) _ _

namespace ClusterConfig

theorem dialAddress_grows (config : ClusterConfig) (address : String) :
    (config.dialAddress address).Grows := by
  unfold dialAddress
  cases config.dialer with
  | some dialer => exact dialer.dialAddress_grows address
  | none => exact DirectDialer.dial_grows _ address

theorem openConnection_grows (config : ClusterConfig) : config.openConnection.Grows := by
  unfold openConnection
  cases config.hostDialer with
  | some dialer => exact dialer.dial_grows config.contactPoints
  | none =>
      apply firstReachable_grows
      intro address
      exact grows_protectWith (config.dialAddress_grows address)
        (config.dialAddress_accounts address) _ _

end ClusterConfig

end ProxyDial
