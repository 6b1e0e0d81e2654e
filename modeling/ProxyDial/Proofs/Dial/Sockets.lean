import ProxyDial.Proofs.Dial.Budget
import ProxyDial.Proofs.Dial.Handshakes
import ProxyDial.Proofs.Dial.ServerName
import ProxyDial.Proofs.Dial.TwoPaths
import ProxyDial.Proofs.Http.Request

set_option autoImplicit false

/-! The sockets of a dial. A dial that fails has closed whatever it opened; one that returns has
closed all but the connection that it hands out, and that one is open, free of bounds, and named
after the candidate that was reached. A lookup through a proxy closes its connection in any case. -/

namespace ProxyDial
open Text

/-- The connections that have been opened in between are closed again. The others are as they were.
-/
def World.Closes (before behind : World) : Prop :=
  ∃ closed, behind.links = before.links ++ closed ∧ ∀ link ∈ closed, link.isOpen = false

/-- The connection has been opened in between, and is the only one of those that is open. -/
structure Connection.HandedOut (connection : Connection) (before behind : World) : Prop where
  newest : ∃ closed link, connection.socket.Newest (before.links ++ closed) link behind ∧
    (∀ other ∈ closed, other.isOpen = false) ∧ link.Ready ∧ link.tls.isSome = connection.isTls

/-- Of the connections opened in between, the one that is handed out is open, and none when there is
none to hand out. -/
def Dial.Accounted (before : World) (result : Except Abort Connection) (behind : World) : Prop :=
  match result with
  | .ok connection => connection.HandedOut before behind
  | .error (.failed _) => before.Closes behind
  | .error .clockOverflow => True

/-- A dial accounts for the connections that it opens. -/
def Dial.Accounts (dial : Dial Connection) : Prop :=
  ∀ world, dial.Ensures world (Accounted world)

/-- However the dial ends, it leaves nothing open of what it has opened. -/
def Dial.ClosesAll {α : Type} (dial : Dial α) : Prop :=
  ∀ world, dial.Ensures world fun _ behind => world.Closes behind

namespace World.Closes

variable {before middle behind : World}

theorem of_eq (same : behind.links = before.links) : before.Closes behind :=
  ⟨[], by rw [same, List.append_nil], nofun⟩

theorem refl (world : World) : world.Closes world := of_eq rfl

theorem trans (first : before.Closes middle) (second : middle.Closes behind) :
    before.Closes behind := by
  obtain ⟨one, links, closedOne⟩ := first
  obtain ⟨two, moreLinks, closedTwo⟩ := second
  refine ⟨one ++ two, by rw [moreLinks, links, List.append_assoc], ?_⟩
  intro link member
  rcases List.mem_append.mp member with early | late
  · exact closedOne link early
  · exact closedTwo link late

theorem of_newest {socket : Socket} {closed : List Link} {link : Link}
    (others : ∀ other ∈ closed, other.isOpen = false)
    (newest : socket.Newest (before.links ++ closed) link behind) (ends : link.isOpen = false) :
    before.Closes behind := by
  refine ⟨closed ++ [link], by rw [newest.links, List.append_assoc], ?_⟩
  intro other member
  rcases List.mem_append.mp member with early | last
  · exact others other early
  · rw [List.mem_singleton.mp last]
    exact ends

end World.Closes

/-- What has been opened and closed before is accounted for. -/
theorem Dial.Accounted.behind {before middle behind : World} {result : Except Abort Connection}
    (closes : before.Closes middle) (accounted : Accounted middle result behind) :
    Accounted before result behind := by
  cases result with
  | ok connection =>
      obtain ⟨one, links, closedOne⟩ := closes
      obtain ⟨two, link, newest, closedTwo, ready, isTls⟩ := Connection.HandedOut.newest accounted
      rw [links, List.append_assoc] at newest
      refine ⟨one ++ two, link, newest, ?_, ready, isTls⟩
      intro other member
      rcases List.mem_append.mp member with early | late
      · exact closedOne other early
      · exact closedTwo other late
  | error abort =>
      cases abort with
      | failed error => exact closes.trans accounted
      | clockOverflow => trivial

namespace Dial

variable {α β : Type}

theorem closesAll_of_still {dial : Dial α} (still : dial.Still) : dial.ClosesAll :=
  fun world => (still world).mono fun _ _ same => .of_eq same

theorem accounts_fail {error : Error} : Accounts (fail error) := fun world => .refl world

theorem accounts_behind {first : Dial α} {next : α → Dial Connection} (closes : first.ClosesAll)
    (accounts : ∀ value, (next value).Accounts) : Accounts (first >>= next) := by
  intro world
  apply ensures_bind
  refine (closes world).mono ?_
  intro result middle closed
  cases result with
  | error abort =>
      cases abort with
      | failed error => exact closed
      | clockOverflow => trivial
  | ok value => exact (accounts value middle).mono fun _ _ found => found.behind closed

theorem MakesOne.accounts {dial : Dial Connection} {good : (returned : Bool) → Link → Prop}
    (makes : dial.MakesOne good) (gives : dial.Gives (·.isTls = false))
    (plain : ∀ returned link, good returned link → link.tls = none) : dial.Accounts := by
  intro world
  cases run : dial world with
  | mk result behind =>
      have isPlain := (gives world).of_run run
      apply ensures_of_eq run
      rcases (makes world).of_run run with
        ⟨same, failed⟩ | ⟨socket, link, newest, left, shape, onto⟩
      · cases result with
        | ok connection => cases failed
        | error abort =>
            cases abort with
            | failed error => exact .of_eq same
            | clockOverflow => trivial
      · have others : ∀ other ∈ ([] : List Link), other.isOpen = false := List.forall_mem_nil _
        rw [← List.append_nil world.links] at newest
        cases result with
        | ok connection =>
            have unprotected : link.tls.isSome = connection.isTls := by
              rw [plain _ link shape, isPlain connection rfl]
              rfl
            rw [← onto connection rfl] at newest
            exact ⟨[], link, newest, others, left, unprotected⟩
        | error abort =>
            cases abort with
            | failed error => exact .of_newest others newest left
            | clockOverflow => trivial

/-- The connection that is handed out is protected, or closed. -/
theorem accounts_protect {dial : Dial Connection} (accounts : dial.Accounts) (config : TlsConfig)
    (options : DialOptions) : Accounts (dial >>= (·.protect config options)) := by
  intro world
  apply ensures_bind
  refine (accounts world).mono ?_
  intro result middle found
  cases result with
  | error abort =>
      cases abort with
      | failed error => exact found
      | clockOverflow => trivial
  | ok connection =>
      obtain ⟨closed, link, newest, others, ready, -⟩ := found.newest
      dsimp only
      cases run : connection.protect config options middle with
      | mk result behind =>
          have isTls := (connection.protect_gives_tls config options middle).of_run run
          obtain ⟨after, stays, left, shape, onto⟩ :=
            (Connection.protect_ends config options newest ready.isOpen).of_run run
          apply ensures_of_eq run
          cases result with
          | ok upgraded =>
              have protected' : after.tls.isSome = upgraded.isTls := by
                rw [shape rfl, isTls upgraded rfl]
              rw [← onto upgraded rfl] at stays
              exact ⟨closed, after, stays, others, left, protected'⟩
          | error abort =>
              cases abort with
              | failed error => exact .of_newest others stays left
              | clockOverflow => trivial

theorem accounts_protectWith {dial : Dial Connection} (accounts : dial.Accounts)
    (tls : Option TlsConfig) (options : DialOptions) : Accounts (do
      let connection ← dial
      match tls with
      | some tls => connection.protect tls options
      | none => return connection) := by
  cases tls with
  | some tls => exact accounts_protect accounts tls options
  | none =>
      have same : dial >>= pure = dial := bind_pure dial
      exact same.symm ▸ accounts

end Dial

theorem ProxyDialer.dialAddress_accounts (dialer : ProxyDialer) (address : String) :
    (dialer.dialAddress address).Accounts := by
  apply Dial.accounts_behind (Dial.closesAll_of_still (Dial.still_ofExcept _))
  intro destination
  cases dialer.proxy.scheme with
  | http =>
      have makes := Http.dial_asks dialer.proxy destination dialer.options
      exact makes.accounts (Http.dial_gives_plain dialer.proxy destination dialer.options)
        fun _ _ asked => asked.plain
  | socks5 =>
      have makes := Socks.dial_makesOne dialer.proxy destination dialer.options
      exact makes.accounts (Socks.dial_gives_plain dialer.proxy destination dialer.options)
        fun _ _ plain => plain

/-! Lookups. -/

namespace ProxiedResolver

/-- A lookup over a tunnel that is open. -/
def ask (host : String) (port : UInt16) (options : DialOptions) (connection : Connection) :
    Dial (List SocketAddress) := do
  let result ← Dial.attempt (queryFamilies host options [] none [.a, .aaaa] connection)
  connection.close
  match ← Dial.ofExcept result with
  | [] => .fail (.resolve (.nothingFound host))
  | addresses => return addresses.map (SocketAddress.ofIp · port)

theorem lookup_eq_ask (resolver : ProxiedResolver) {host : String} (port : UInt16)
    (isName : IpAddress.ofString? host = none) : resolver.lookup host port = (do
      let options ← Dial.started resolver.dialer.options
      let connection ←
        (resolver.dialer.withOptions options).dialAddress (toString resolver.nameserver)
      ask host port options connection) := by
  unfold lookup
  rw [isName]
  rfl

section
variable {connection : Connection} {before world : World} {closed : List Link} {link : Link}

/-- With the connection closed, what the answer says is all that is left. -/
private theorem conclude_closes (host : String) (port : UInt16)
    (answer : Except Error (List IpAddress)) (others : ∀ other ∈ closed, other.isOpen = false)
    (newest : connection.socket.Newest (before.links ++ closed) link world) : Dial.Ensures (do
      connection.close
      match ← Dial.ofExcept answer with
      | [] => .fail (.resolve (.nothingFound host))
      | addresses => return addresses.map (SocketAddress.ofIp · port)) world
      fun _ behind => before.Closes behind := by
  apply newest.ensures_update
  intro middle closedNewest
  have still : Dial.Still (do
      match ← Dial.ofExcept answer with
      | [] => .fail (.resolve (.nothingFound host))
      | addresses => return addresses.map (SocketAddress.ofIp · port)) := by
    apply Dial.still_bind (Dial.still_ofExcept answer)
    intro addresses
    cases addresses with
    | nil => exact Dial.still_fail
    | cons address addresses => exact Dial.still_pure
  have done : before.Closes middle := .of_newest others closedNewest rfl
  exact (still middle).mono fun _ _ same => done.trans (.of_eq same)

theorem ask_closes (host : String) (port : UInt16) {options : DialOptions} {deadline : Instant}
    (has : options.deadline = some deadline) (others : ∀ other ∈ closed, other.isOpen = false)
    (newest : connection.socket.Newest (before.links ++ closed) link world) :
    (ask host port options connection).Ensures world fun _ behind => before.Closes behind := by
  apply Dial.ensures_attempt
  cases run : queryFamilies host options [] none [.a, .aaaa] connection world with
  | mk answer behind =>
      have kept := (queryFamilies_keeps Link.isOpen_hides host options [] none [.a, .aaaa]
        connection world).of_run run
      have ends := (queryFamilies_endsBy has host [] none [.a, .aaaa] connection world).of_run run
      obtain ⟨after, stays, -⟩ := newest.kept kept
      apply Dial.ensures_of_eq run
      cases answer with
      | ok addresses => exact conclude_closes host port (.ok addresses) others stays
      | error abort =>
          cases abort with
          | failed error => exact conclude_closes host port (.error error) others stays
          | clockOverflow => exact absurd rfl ends.inRange

end

/-- The connection to the nameserver is closed, whatever it has answered. A lookup that has started
cannot overflow the clock any more. -/
theorem lookup_closesAll (resolver : ProxiedResolver) (host : String) (port : UInt16) :
    (resolver.lookup host port).ClosesAll := by
  cases isName : IpAddress.ofString? host with
  | some ip =>
      unfold lookup
      rw [isName]
      exact Dial.closesAll_of_still Dial.still_pure
  | none =>
      rw [resolver.lookup_eq_ask port isName]
      intro world
      apply ensures_started
      · intro _
        exact .refl world
      · intro started starts
        obtain ⟨deadline, has⟩ := DialOptions.deadline_of_started? starts
        apply Dial.ensures_bind
        have budgeted := ProxyDialer.dialAddress_budgeted resolver.dialer.proxy
          (toString resolver.nameserver)
        have accounts := (resolver.dialer.withOptions started).dialAddress_accounts
          (toString resolver.nameserver) (world.looked .starts resolver.dialer.options)
        cases run : (resolver.dialer.withOptions started).dialAddress (toString resolver.nameserver)
            (world.looked .starts resolver.dialer.options) with
        | mk result opened =>
            have ends := (budgeted.endsBy has _).of_run run
            have found := accounts.of_run run
            apply Dial.ensures_of_eq run
            cases result with
            | error abort =>
                cases abort with
                | failed error => exact found
                | clockOverflow => exact absurd rfl ends.inRange
            | ok connection =>
                obtain ⟨closed, link, newest, others, -⟩ := found.newest
                exact ask_closes host port has others newest

end ProxiedResolver

theorem systemLookup_still (host : String) (port : UInt16) : (systemLookup host port).Still := by
  apply Dial.still_bind (systemAddresses_still host.toList)
  intro outcome
  split
  · exact Dial.still_fail
  · exact Dial.still_fail
  · exact Dial.still_pure

theorem Resolver.lookup_closesAll (resolver : Resolver) (host : String) (port : UInt16) :
    (resolver.lookup host port).ClosesAll := by
  cases resolver with
  | system => exact Dial.closesAll_of_still (systemLookup_still host port)
  | proxied resolver => exact resolver.lookup_closesAll host port
  | custom name answer =>
      apply Dial.closesAll_of_still
      have still : Dial.Still (modify fun world : World =>
          { world with asked := world.asked ++ [(host, port)] }) := Dial.still_modify fun _ => rfl
      apply Dial.still_bind still
      intro _
      exact Dial.still_bind (Dial.still_awaitLookup host) fun _ => Dial.still_ofExcept _

/-! Dials of every kind. -/

theorem DirectDialer.dial_accounts (dialer : DirectDialer) (address : String) :
    (dialer.dial address).Accounts := by
  apply Dial.accounts_behind (Dial.closesAll_of_still (Dial.still_ofExcept _))
  intro destination
  have through (resolver : Resolver) : Dial.Accounts (do
      let addresses ← resolver.lookup destination.host destination.port
      let socket ← connectAny addresses dialer.options
      return (⟨.plain (.direct socket), destination.authority⟩ : Connection)) := by
    apply Dial.accounts_behind (resolver.lookup_closesAll destination.host destination.port)
    intro addresses world
    apply Dial.ensures_bind
    refine (connectAny_adds addresses dialer.options world).mono ?_
    intro result behind added
    cases result with
    | error abort =>
        cases abort with
        | failed error => exact .of_eq added
        | clockOverflow => trivial
    | ok socket =>
        obtain ⟨link, newest, fresh⟩ := added
        rw [← List.append_nil world.links] at newest
        have plain : link.tls.isSome = false := by rw [fresh.tls]; rfl
        exact Dial.ensures_pure ⟨[], link, newest, List.forall_mem_nil _, fresh.ready, plain⟩
  cases dialer.resolver with
  | some resolver => exact through resolver
  | none =>
      apply Dial.accounts_behind (Dial.closesAll_of_still (Dial.still_get fun _ => Dial.still_pure))
      exact through

/-- What is closed again leaves the walk as it was; the first candidate that is reached ends it. -/
theorem Candidates.walk_accounts {dial : String → Dial Connection}
    (accounts : ∀ candidate, (dial candidate).Accounts) (all : List String)
    (failures : List (String × String)) (left : List String) :
    (walk dial all failures left).Accounts := by
  induction left generalizing failures with
  | nil => exact Dial.accounts_fail
  | cons candidate rest ih =>
      intro world
      have here := accounts candidate world
      cases run : dial candidate world with
      | mk result middle =>
          have found := here.of_run run
          have goes := walk_cons_run dial all failures candidate rest world
          rw [run] at goes
          cases result with
          | ok connection => exact Dial.ensures_of_eq goes found
          | error abort =>
              cases abort with
              | clockOverflow => exact Dial.ensures_of_eq goes trivial
              | failed error =>
                  unfold Dial.Ensures
                  rw [goes]
                  exact (ih ((candidate, error.message) :: failures) middle).behind found

theorem firstReachable_accounts {dial : String → Dial Connection}
    (accounts : ∀ candidate, (dial candidate).Accounts) (candidates : Candidates) :
    (firstReachable candidates dial).Accounts := by
  unfold firstReachable
  split
  · exact Dial.accounts_fail
  · exact Candidates.walk_accounts accounts _ _ _

theorem HostDialer.dial_accounts (dialer : HostDialer) (candidates : Candidates) :
    (dialer.dial candidates).Accounts :=
  Dial.accounts_protectWith
    (firstReachable_accounts dialer.dialer.dialAddress_accounts candidates) _ _

namespace ClusterConfig

theorem dialAddress_accounts (config : ClusterConfig) (address : String) :
    (config.dialAddress address).Accounts := by
  unfold dialAddress
  cases config.dialer with
  | some dialer => exact dialer.dialAddress_accounts address
  | none => exact DirectDialer.dial_accounts _ address

theorem openAddress_accounts (config : ClusterConfig) (address : String) :
    (config.openAddress address).Accounts :=
  Dial.accounts_protectWith (config.dialAddress_accounts address) _ _

theorem openConnection_accounts (config : ClusterConfig) : config.openConnection.Accounts := by
  unfold openConnection
  cases config.hostDialer with
  | some dialer => exact dialer.dial_accounts config.contactPoints
  | none => exact firstReachable_accounts config.openAddress_accounts config.contactPoints

end ClusterConfig

end ProxyDial
