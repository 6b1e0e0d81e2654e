import ProxyDial.Proofs.Dial.Sockets

set_option autoImplicit false

/-! Which candidate a dial hands out a connection to. It is the first one that is reached, and the
connection keeps its socket and its name when it is protected. With that, the sockets of every way
of dialing are accounted for. -/

namespace ProxyDial
open Text

/-- The candidate is the first one that is reached, from the world that those before it leave. -/
inductive Candidates.Wins (dial : String → Dial Connection) :
    List String → World → String → Connection → World → Prop
  | here {candidate : String} {rest : List String} {world behind : World} {connection : Connection}
      (reached : dial candidate world = (.ok connection, behind)) :
      Wins dial (candidate :: rest) world candidate connection behind
  | later {passed candidate : String} {rest : List String} {world middle behind : World}
      {error : Error} {connection : Connection}
      (unreached : dial passed world = (.error (.failed error), middle))
      (wins : Wins dial rest middle candidate connection behind) :
      Wins dial (passed :: rest) world candidate connection behind

theorem Candidates.Wins.reached {dial : String → Dial Connection} {left : List String}
    {world behind : World} {candidate : String} {connection : Connection}
    (wins : Wins dial left world candidate connection behind) :
    ∃ start, dial candidate start = (.ok connection, behind) := by
  induction wins with
  | here reached => exact ⟨_, reached⟩
  | later _ _ ih => exact ih

theorem Candidates.walk_wins {dial : String → Dial Connection} {all left : List String}
    {failures : List (String × String)} {world behind : World} {connection : Connection}
    (won : walk dial all failures left world = (.ok connection, behind)) :
    ∃ candidate, Wins dial left world candidate connection behind := by
  induction left generalizing failures world with
  | nil => cases won
  | cons candidate rest ih =>
      rw [walk_cons_run] at won
      cases run : dial candidate world with
      | mk result middle =>
          rw [run] at won
          cases result with
          | ok reached =>
              cases won
              exact ⟨candidate, .here run⟩
          | error abort =>
              cases abort with
              | clockOverflow => cases won
              | failed error =>
                  obtain ⟨winner, wins⟩ := ih won
                  exact ⟨winner, .later run wins⟩

/-- The connection is the one to the candidate that has won, and is named after its destination. -/
def Connection.WonBy (connection : Connection) (reach : String → Dial Connection)
    (candidates : List String) (world : World) : Prop :=
  ∃ candidate reached middle, Candidates.Wins reach candidates world candidate reached middle ∧
    reached.socket = connection.socket ∧ ∃ destination, connection.LeadsTo candidate destination

/-- Whatever the dial returns is the connection to the candidate that has won. -/
def Dial.Picks (dial : Dial Connection) (reach : String → Dial Connection)
    (candidates : List String) : Prop :=
  ∀ world, dial.Ensures world fun result _ =>
    ∀ connection, result = .ok connection → connection.WonBy reach candidates world

theorem Transport.protect_gives_socket (host : String) (config : TlsConfig) (options : DialOptions)
    (transport : Transport) : (transport.protect host config options).Gives fun upgraded =>
      upgraded.raw.socket = transport.raw.socket := by
  apply Dial.gives_bind
  intro started
  cases transport with
  | tls raw session => exact Dial.gives_bind fun _ => Dial.gives_fail
  | plain raw =>
      apply Dial.gives_bind
      intro outcome
      cases outcome with
      | ok session => exact Dial.gives_pure rfl
      | error error => exact Dial.gives_bind fun _ => Dial.gives_fail

theorem Connection.protect_gives_same (config : TlsConfig) (options : DialOptions)
    (connection : Connection) : (connection.protect config options).Gives fun upgraded =>
      upgraded.socket = connection.socket ∧ upgraded.address = connection.address := by
  apply Dial.gives_bind
  intro started
  cases Destination.parse connection.address with
  | error error => exact Dial.gives_bind fun _ => Dial.gives_fail
  | ok destination =>
      have upgrades := connection.transport.protect_gives_socket destination.host config started
      refine Dial.gives_bind_of upgrades ?_
      intro transport same
      exact Dial.gives_pure ⟨same, rfl⟩

namespace Dial

variable {dial : Dial Connection} {reach : String → Dial Connection} {candidates : List String}

theorem picks_single {reach : String → Dial Connection} (address : String)
    (leads : (reach address).Gives fun connection =>
      ∃ destination, connection.LeadsTo address destination) :
    (reach address).Picks reach [address] := by
  intro world
  cases run : reach address world with
  | mk result behind =>
      apply ensures_of_eq run
      rintro connection rfl
      have named := (leads world).of_run run connection rfl
      exact ⟨address, connection, behind, .here run, rfl, named⟩

/-- Protection is for the winner, and changes neither its socket nor its name. -/
theorem picks_protectWith (picks : dial.Picks reach candidates) (tls : Option TlsConfig)
    (options : DialOptions) : Picks (do
      let connection ← dial
      match tls with
      | some tls => connection.protect tls options
      | none => return connection) reach candidates := by
  intro world
  apply ensures_bind
  refine (picks world).mono ?_
  intro result middle won
  cases result with
  | error abort => exact nofun
  | ok connection =>
      obtain ⟨candidate, reached, start, wins, same, destination, leads⟩ := won connection rfl
      cases tls with
      | none =>
          apply ensures_pure
          rintro _ ⟨⟩
          exact ⟨candidate, reached, start, wins, same, destination, leads⟩
      | some tls =>
          refine (connection.protect_gives_same tls options middle).mono ?_
          intro result behind gives upgraded returned
          obtain ⟨sameSocket, sameAddress⟩ := gives upgraded returned
          have stillLeads : upgraded.LeadsTo candidate destination :=
            ⟨leads.1, sameAddress.trans leads.2⟩
          exact ⟨candidate, reached, start, wins, same.trans sameSocket.symm, destination,
            stillLeads⟩

end Dial

theorem firstReachable_picks {dial : String → Dial Connection}
    (leads : ∀ candidate, (dial candidate).Gives fun connection =>
      ∃ destination, connection.LeadsTo candidate destination) (candidates : Candidates) :
    (firstReachable candidates dial).Picks dial candidates.addresses := by
  intro world
  unfold firstReachable
  split
  next none => exact nofun
  next addresses =>
    cases run : Candidates.walk dial candidates.addresses [] candidates.addresses world with
    | mk result behind =>
        apply Dial.ensures_of_eq run
        rintro connection rfl
        obtain ⟨candidate, wins⟩ := Candidates.walk_wins run
        obtain ⟨start, reached⟩ := wins.reached
        have named := (leads candidate start).of_run reached connection rfl
        exact ⟨candidate, connection, behind, wins, rfl, named⟩

theorem HostDialer.dial_picks (dialer : HostDialer) (candidates : Candidates) :
    (dialer.dial candidates).Picks dialer.dialer.dialAddress candidates.addresses :=
  Dial.picks_protectWith (firstReachable_picks dialer.dialer.dialAddress_leads candidates) _ _

theorem ClusterConfig.openAddress_leads (config : ClusterConfig) (address : String) :
    (config.openAddress address).Gives fun connection =>
      ∃ destination, connection.LeadsTo address destination := by
  refine Dial.gives_bind_of (config.dialAddress_leads address) ?_
  rintro connection ⟨destination, leads⟩
  cases config.tls with
  | none => exact Dial.gives_pure ⟨destination, leads⟩
  | some tls =>
      exact (connection.protect_gives_same tls config.options).mono
        fun upgraded same => ⟨destination, leads.1, same.2.trans leads.2⟩

/-- How one contact point is reached. Without a host dialer, each one that is reached is protected.
-/
def ClusterConfig.reach (config : ClusterConfig) : String → Dial Connection :=
  match config.hostDialer with
  | some dialer => dialer.dialer.dialAddress
  | none => config.openAddress

theorem ClusterConfig.openConnection_picks (config : ClusterConfig) :
    config.openConnection.Picks config.reach config.contactPoints.addresses := by
  unfold openConnection reach
  cases config.hostDialer with
  | some dialer => exact dialer.dial_picks config.contactPoints
  | none => exact firstReachable_picks config.openAddress_leads config.contactPoints

/-- The ways in which connections are dialed. -/
inductive Way
  | address (dialer : ProxyDialer) (address : String)
  | candidates (dialer : ProxyDialer) (candidates : Candidates)
  | host (dialer : HostDialer) (candidates : Candidates)
  | direct (dialer : DirectDialer) (address : String)
  | cluster (config : ClusterConfig)

namespace Way

def dial : Way → Dial Connection
  | address dialer text => dialer.dialAddress text
  | candidates dialer all => dialer.dial all
  | host dialer all => dialer.dial all
  | direct dialer text => dialer.dial text
  | cluster config => config.openConnection

/-- What is tried, in this order. -/
def tried : Way → List String
  | address _ text | direct _ text => [text]
  | candidates _ all | host _ all => all.addresses
  | cluster config => config.contactPoints.addresses

def reach : Way → String → Dial Connection
  | address dialer _ | candidates dialer _ => dialer.dialAddress
  | host dialer _ => dialer.dialer.dialAddress
  | direct dialer _ => dialer.dial
  | cluster config => config.reach

def protection : Way → Option TlsConfig
  | address _ _ | candidates _ _ | direct _ _ => none
  | host dialer _ => dialer.tls
  | cluster config => config.protection

theorem dial_accounts (way : Way) : way.dial.Accounts := by
  cases way with
  | address dialer text => exact dialer.dialAddress_accounts text
  | candidates dialer all => exact firstReachable_accounts dialer.dialAddress_accounts all
  | host dialer all => exact dialer.dial_accounts all
  | direct dialer text => exact dialer.dial_accounts text
  | cluster config => exact config.openConnection_accounts

theorem dial_gives (way : Way) :
    way.dial.Gives fun connection => connection.isTls = way.protection.isSome := by
  cases way with
  | address dialer text => exact dialer.dialAddress_gives_plain text
  | candidates dialer all => exact firstReachable_gives dialer.dialAddress_gives_plain all
  | host dialer all => exact dialer.dial_gives all
  | direct dialer text => exact dialer.dial_gives_plain text
  | cluster config => exact config.openConnection_gives

theorem dial_picks (way : Way) : way.dial.Picks way.reach way.tried := by
  cases way with
  | address dialer text => exact Dial.picks_single text (dialer.dialAddress_leads text)
  | candidates dialer all => exact firstReachable_picks dialer.dialAddress_leads all
  | host dialer all => exact dialer.dial_picks all
  | direct dialer text => exact Dial.picks_single text (dialer.dial_leads text)
  | cluster config => exact config.openConnection_picks

/-- Sockets are accounted for in every way of dialing and however the peers behave, and in every
lookup through a proxy. -/
theorem sockets_accounted_for :
    (∀ (way : Way) (world : World), way.dial.Ensures world fun result behind =>
      match result with
      | .ok connection => connection.HandedOut world behind ∧
          connection.isTls = way.protection.isSome ∧ connection.WonBy way.reach way.tried world
      | .error (.failed _) => world.Closes behind
      | .error .clockOverflow => True) ∧
    ∀ (resolver : ProxiedResolver) (host : String) (port : UInt16) (world : World),
      (resolver.lookup host port).Ensures world fun _ behind => world.Closes behind := by
  constructor
  · intro way world
    cases run : way.dial world with
    | mk result behind =>
        have accounted := (way.dial_accounts world).of_run run
        have isTls := (way.dial_gives world).of_run run
        have won := (way.dial_picks world).of_run run
        apply Dial.ensures_of_eq run
        cases result with
        | ok connection => exact ⟨accounted, isTls connection rfl, won connection rfl⟩
        | error abort =>
            cases abort with
            | failed error => exact accounted
            | clockOverflow => trivial
  · intro resolver host port
    exact resolver.lookup_closesAll host port

end Way

end ProxyDial
