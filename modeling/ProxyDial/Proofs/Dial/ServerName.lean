import ProxyDial.Cluster.Config
import ProxyDial.Proofs.Destination.Reread
import ProxyDial.Proofs.Dial.Protected

set_option autoImplicit false

/-! The name that a server must have when a dialed connection is protected. A connection carries its
destination in the form `host:port`, and the name is read from there. So it is the host that the
tunnel leads to, wherever that form can be read back; elsewhere the connection is closed. -/

namespace ProxyDial
open Text

namespace Connection

/-- Protects the connection to a server of the given name. -/
def protectAs (host : String) (config : TlsConfig) (options : DialOptions)
    (connection : Connection) : Dial Connection := do
  let options ← Dial.started options
  let transport ← connection.transport.protect host config options
  return { connection with transport := transport }

/-- Closes the connection instead of protecting it. -/
def turnDown (error : Error) (options : DialOptions) (connection : Connection) :
    Dial Connection := do
  let _ ← Dial.started options
  connection.close
  .fail error

/-- Protects the connection to a destination, as far as its form `host:port` can be read back. -/
def protectTo (destination : Destination) (config : TlsConfig) (options : DialOptions)
    (connection : Connection) : Dial Connection :=
  if Destination.Rereads destination.host.toList then
    connection.protectAs destination.host config options
  else
    connection.turnDown (.config (.invalidDestination destination.authority
      Authority.Problem.structural.message)) options

/-- A connection leads to a destination that has been read from a text. -/
def LeadsTo (address : String) (destination : Destination) (connection : Connection) : Prop :=
  Destination.parse address = .ok destination ∧ connection.address = destination.authority

theorem LeadsTo.protect_eq {address : String} {destination : Destination} {connection : Connection}
    (leads : connection.LeadsTo address destination) (config : TlsConfig) (options : DialOptions) :
    connection.protect config options = connection.protectTo destination config options := by
  have again :=
    Destination.parse_authority_of_isHost (Destination.isHost_of_parse leads.1)
  unfold protect protectTo
  rw [leads.2, again]
  by_cases rereads : Destination.Rereads destination.host.toList
  · rw [if_pos rereads, if_pos rereads, ← leads.2]
    rfl
  · rw [if_neg rereads, if_neg rereads]
    rfl

end Connection

theorem Http.dial_gives_address (proxy : Proxy) (destination : Destination)
    (options : DialOptions) :
    (Http.dial proxy destination options).Gives (·.address = destination.authority) := by
  apply Dial.gives_bind
  intro started
  apply Dial.gives_bind
  intro socket
  apply Dial.gives_bind
  intro raw
  exact Dial.gives_pure rfl

theorem Socks.dial_gives_address (proxy : Proxy) (destination : Destination)
    (options : DialOptions) :
    (Socks.dial proxy destination options).Gives (·.address = destination.authority) := by
  apply Dial.gives_bind
  intro started
  apply Dial.gives_bind
  intro socket
  apply Dial.gives_bind
  intro outcome
  cases outcome with
  | error error =>
      apply Dial.gives_bind
      intro closed
      exact Dial.gives_fail
  | ok done =>
      apply Dial.gives_bind
      intro cleared
      apply Dial.gives_bind
      intro cleared
      exact Dial.gives_pure rfl

/-- A tunnel leads to the destination that its address names. -/
theorem ProxyDialer.dialAddress_leads (dialer : ProxyDialer) (address : String) :
    (dialer.dialAddress address).Gives fun connection =>
      ∃ destination, connection.LeadsTo address destination := by
  refine Dial.gives_bind_of (Dial.gives_ofExcept _) ?_
  intro destination parsed
  cases dialer.proxy.scheme with
  | http =>
      exact (Http.dial_gives_address dialer.proxy destination dialer.options).mono
        fun connection same => ⟨destination, parsed, same⟩
  | socks5 =>
      exact (Socks.dial_gives_address dialer.proxy destination dialer.options).mono
        fun connection same => ⟨destination, parsed, same⟩

theorem DirectDialer.dial_leads (dialer : DirectDialer) (address : String) :
    (dialer.dial address).Gives fun connection =>
      ∃ destination, connection.LeadsTo address destination := by
  refine Dial.gives_bind_of (Dial.gives_ofExcept _) ?_
  intro destination parsed
  have behind (resolver : Resolver) : Dial.Gives (do
      let addresses ← resolver.lookup destination.host destination.port
      let socket ← connectAny addresses dialer.options
      return (⟨.plain (.direct socket), destination.authority⟩ : Connection))
      fun connection => ∃ destination, connection.LeadsTo address destination := by
    apply Dial.gives_bind
    intro addresses
    apply Dial.gives_bind
    intro socket
    exact Dial.gives_pure ⟨destination, parsed, rfl⟩
  cases dialer.resolver with
  | some resolver => exact Dial.gives_bind behind
  | none => exact Dial.gives_bind behind

/-- Whichever way a contact point is dialed, the connection leads to what its address names. -/
theorem ClusterConfig.dialAddress_leads (config : ClusterConfig) (address : String) :
    (config.dialAddress address).Gives fun connection =>
      ∃ destination, connection.LeadsTo address destination := by
  unfold dialAddress
  cases config.dialer with
  | some dialer => exact dialer.dialAddress_leads address
  | none => exact DirectDialer.dial_leads _ address

/-- A host dialer protects its winner to the destination that some candidate names. -/
theorem HostDialer.dial_protects_destination (dialer : HostDialer) (candidates : Candidates)
    {tls : TlsConfig} (protection : dialer.tls = some tls) {world opened : World}
    {winner : Connection} (won : dialer.dialer.dial candidates world = (.ok winner, opened)) :
    ∃ address destination, winner.LeadsTo address destination ∧
      dialer.dial candidates world =
        winner.protectTo destination tls dialer.dialer.options opened := by
  have leads : (dialer.dialer.dial candidates).Gives fun connection =>
      ∃ address destination, connection.LeadsTo address destination :=
    firstReachable_gives
      (fun address => (dialer.dialer.dialAddress_leads address).mono
        fun _ leads => ⟨address, leads⟩)
      candidates
  obtain ⟨address, destination, leadsTo⟩ := (leads world).of_run won winner rfl
  refine ⟨address, destination, leadsTo, ?_⟩
  unfold dial
  rw [Dial.bind_run, won, protection]
  exact congrFun (leadsTo.protect_eq tls dialer.dialer.options) opened

/-- A destination is read again from its form `host:port`, or that form is no authority; it never
names another destination. A connection that is dialed to it is protected as its host in the one
case, and closed in the other one. -/
theorem ClusterConfig.dialed_name_rereads {address : String} {destination : Destination}
    (parsed : Destination.parse address = .ok destination) :
    (Destination.parse destination.authority =
      if Destination.Rereads destination.host.toList then .ok destination
      else .error (.config (.invalidDestination destination.authority
        Authority.Problem.structural.message))) ∧
    ∀ (config : ClusterConfig) (tls : TlsConfig), config.tls = some tls →
      config.openAddress address =
        config.dialAddress address >>= (·.protectTo destination tls config.options) := by
  refine ⟨Destination.parse_authority_of_isHost (Destination.isHost_of_parse parsed), ?_⟩
  intro config tls protection
  unfold openAddress
  apply Dial.bind_congr_of_gives (config.dialAddress_leads address)
  rintro connection ⟨named, leads⟩
  have same : named = destination := Except.ok.inj (leads.1.symm.trans parsed)
  subst same
  rw [protection]
  exact leads.protect_eq tls config.options

/-- A plain entry is dialed, and protected, under its own name. -/
theorem ClusterConfig.plain_name_rereads :
    let destination : Destination := ⟨"scylla-server", 9042⟩
    let tls : TlsConfig := ⟨[⟨[], [], none⟩], false, none⟩
    let config := { ofHosts ["scylla-server"] with tls := some tls }
    Destination.parse "scylla-server:9042" = .ok destination ∧
      Destination.parse destination.authority = .ok destination ∧ config.tls = some tls ∧
      config.openAddress "scylla-server:9042" = config.dialAddress "scylla-server:9042" >>=
        (·.protectTo destination tls config.options) := by
  intro destination tls config
  have parsed : Destination.parse "scylla-server:9042" = .ok destination := by decide +kernel
  obtain ⟨again, dials⟩ := dialed_name_rereads parsed
  have rereads : Destination.Rereads destination.host.toList := by decide +kernel
  exact ⟨parsed, again.trans (if_pos rereads), rfl, dials config tls rfl⟩

/-- The closing bracket at the end of a host goes, and the opening one inside of it stays. -/
theorem ClusterConfig.half_bracketed_name_does_not_reread :
    Destination.parse "a[b]:80" = .ok ⟨"a[b", 80⟩ ∧
      Destination.parse (Destination.authority ⟨"a[b", 80⟩) ≠ .ok ⟨"a[b", 80⟩ := by
  decide +kernel

end ProxyDial
