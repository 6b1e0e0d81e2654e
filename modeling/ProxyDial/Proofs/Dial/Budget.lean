import ProxyDial.Cluster.Config
import ProxyDial.Proofs.Net.Timed

set_option autoImplicit false

/-! The time of whole dials. Every way of dialing starts its budget where it begins, and draws from
it until it ends. So the time of a dial of the cluster is a matter of how many budgets it starts. -/

namespace ProxyDial
open Text Dial

section
variable {options : DialOptions} {deadline : Instant}

/-! Through an HTTP proxy. -/

theorem Http.readAnswer_endsBy (has : options.deadline = some deadline) (destination : Destination)
    (socket : Socket) (room : Nat) (answer : Bytes) :
    (Http.readAnswer destination options socket room answer).EndsBy deadline := by
  induction room generalizing answer with
  | zero => exact endsBy_of_lasts lasts_fail deadline
  | succ room ih =>
      refine endsBy_timed has (socket.timed_read_lasts Http.chunkLength) fun result => ?_
      refine endsBy_bind (endsBy_of_lasts (lasts_orFail _ result) deadline) fun chunk => ?_
      dsimp only
      split
      · exact endsBy_of_lasts lasts_fail deadline
      · refine endsBy_bind (endsBy_of_lasts (lasts_ofExcept _) deadline) fun verdict => ?_
        cases verdict with
        | some behind => exact endsBy_of_lasts lasts_pure deadline
        | none => exact ih _

theorem Http.handshake_endsBy (has : options.deadline = some deadline) (destination : Destination)
    (authorization : Option String) (socket : Socket) :
    (Http.handshake destination authorization options socket).EndsBy deadline := by
  refine endsBy_timed has (socket.timed_write_lasts _) fun written => ?_
  refine endsBy_bind (endsBy_of_lasts (lasts_orFail _ written) deadline) fun _ => ?_
  exact Http.readAnswer_endsBy has destination socket _ []

theorem Http.openTunnel_budgeted (destination : Destination) (authorization : Option String)
    (socket : Socket) :
    Budgeted fun options => Http.openTunnel destination authorization options socket := by
  apply budgeted_of_started
  intro options deadline has
  refine endsBy_bind (endsBy_attempt (Http.handshake_endsBy has destination authorization socket))
    fun outcome => ?_
  cases outcome with
  | error error =>
      exact endsBy_of_lasts (lasts_then socket.close_lasts fun _ => lasts_fail) deadline
  | ok behind =>
      apply endsBy_of_lasts
      refine lasts_then (socket.update_lasts _ fun _ => rfl) fun _ => ?_
      exact lasts_then (socket.update_lasts _ fun _ => rfl) fun _ => lasts_pure

theorem Http.dial_timed (proxy : Proxy) (destination : Destination) :
    Timed (Http.dial proxy destination) := by
  apply timed_of_started
  intro options deadline has
  refine endsBy_bind ((connectTo_budgeted proxy.address).endsBy has) fun socket => ?_
  refine endsBy_bind ((Http.openTunnel_budgeted destination _ socket).endsBy has) fun raw => ?_
  exact endsBy_of_lasts lasts_pure deadline

/-! Through a SOCKS proxy. -/

theorem Socks.send_endsBy (has : options.deadline = some deadline) (packet : Bytes)
    (socket : Socket) : (Socks.send packet options socket).EndsBy deadline := by
  refine endsBy_timed has (socket.timed_write_lasts packet) fun written => ?_
  exact endsBy_of_lasts (lasts_orFail _ written) deadline

theorem Socks.receive_endsBy (has : options.deadline = some deadline) (socket : Socket)
    (count : Nat) : (Socks.receive options socket count).EndsBy deadline := by
  induction count using Nat.strongRecOn with
  | ind count ih =>
      cases count with
      | zero =>
          rw [Socks.receive]
          exact endsBy_of_lasts lasts_pure deadline
      | succ count =>
          rw [Socks.receive]
          refine endsBy_timed has (socket.timed_read_lasts (count + 1)) fun result => ?_
          refine endsBy_bind (endsBy_of_lasts (lasts_orFail _ result) deadline) fun bytes => ?_
          cases bytes with
          | nil => exact endsBy_of_lasts lasts_fail deadline
          | cons byte bytes =>
              refine endsBy_bind (ih _ (by omega)) fun rest => ?_
              exact endsBy_of_lasts lasts_pure deadline

theorem Socks.checkVersion_endsBy (found : UInt8) :
    (Socks.checkVersion found).EndsBy deadline := by
  unfold Socks.checkVersion
  split
  · exact endsBy_of_lasts lasts_pure deadline
  · exact endsBy_of_lasts lasts_fail deadline

theorem Socks.authenticate_endsBy (has : options.deadline = some deadline)
    (credentials : Credentials) (socket : Socket) :
    (Socks.authenticate credentials options socket).EndsBy deadline := by
  refine endsBy_bind (endsBy_of_lasts (lasts_ofExcept _) deadline) fun packet => ?_
  refine endsBy_bind (Socks.send_endsBy has packet socket) fun _ => ?_
  refine endsBy_bind (Socks.receive_endsBy has socket 2) fun status => ?_
  split
  · exact endsBy_of_lasts lasts_fail deadline
  · exact endsBy_of_lasts lasts_pure deadline

theorem Socks.negotiate_endsBy (has : options.deadline = some deadline)
    (credentials : Option Credentials) (socket : Socket) :
    (Socks.negotiate credentials options socket).EndsBy deadline := by
  refine endsBy_bind (Socks.send_endsBy has _ socket) fun _ => ?_
  refine endsBy_bind (Socks.receive_endsBy has socket 2) fun choice => ?_
  refine endsBy_bind (Socks.checkVersion_endsBy _) fun _ => ?_
  dsimp only
  split
  · exact endsBy_of_lasts lasts_pure deadline
  · split
    · cases credentials with
      | some credentials => exact Socks.authenticate_endsBy has credentials socket
      | none => exact endsBy_of_lasts lasts_fail deadline
    · split
      · exact endsBy_of_lasts lasts_fail deadline
      · exact endsBy_of_lasts lasts_fail deadline

theorem Socks.boundLength_endsBy (has : options.deadline = some deadline) (type : UInt8)
    (socket : Socket) : (Socks.boundLength type options socket).EndsBy deadline := by
  unfold Socks.boundLength
  split
  · exact endsBy_of_lasts lasts_pure deadline
  · split
    · exact endsBy_of_lasts lasts_pure deadline
    · split
      · refine endsBy_bind (Socks.receive_endsBy has socket 1) fun length => ?_
        exact endsBy_of_lasts lasts_pure deadline
      · exact endsBy_of_lasts lasts_fail deadline

theorem Socks.readReply_endsBy (has : options.deadline = some deadline) (destination : Destination)
    (socket : Socket) : (Socks.readReply destination options socket).EndsBy deadline := by
  refine endsBy_bind (Socks.receive_endsBy has socket 4) fun reply => ?_
  refine endsBy_bind (Socks.checkVersion_endsBy _) fun _ => ?_
  dsimp only
  split
  · exact endsBy_of_lasts lasts_fail deadline
  · refine endsBy_bind (Socks.boundLength_endsBy has _ socket) fun length => ?_
    unfold Functor.discard
    rw [map_const, Function.comp_apply, map_eq_pure_bind]
    exact endsBy_bind (Socks.receive_endsBy has socket length)
      fun _ => endsBy_of_lasts lasts_pure deadline

theorem Socks.handshake_budgeted (destination : Destination) (credentials : Option Credentials)
    (socket : Socket) :
    Budgeted fun options => Socks.handshake destination credentials options socket := by
  apply budgeted_of_started
  intro options deadline has
  refine endsBy_bind (Socks.negotiate_endsBy has credentials socket) fun _ => ?_
  refine endsBy_bind (endsBy_of_lasts (lasts_ofExcept _) deadline) fun request => ?_
  refine endsBy_bind (Socks.send_endsBy has request socket) fun _ => ?_
  exact Socks.readReply_endsBy has destination socket

theorem Socks.dial_timed (proxy : Proxy) (destination : Destination) :
    Timed (Socks.dial proxy destination) := by
  apply timed_of_started
  intro options deadline has
  refine endsBy_bind ((connectTo_budgeted proxy.address).endsBy has) fun socket => ?_
  have handshake := (Socks.handshake_budgeted destination proxy.credentials socket).endsBy has
  refine endsBy_bind (endsBy_attempt handshake) fun outcome => ?_
  cases outcome with
  | error error =>
      exact endsBy_of_lasts (lasts_then socket.close_lasts fun _ => lasts_fail) deadline
  | ok done =>
      apply endsBy_of_lasts
      refine lasts_then (socket.update_lasts _ fun _ => rfl) fun _ => ?_
      exact lasts_then (socket.update_lasts _ fun _ => rfl) fun _ => lasts_pure

theorem ProxyDialer.dialAddress_budgeted (proxy : Proxy) (address : String) :
    Budgeted fun options => ProxyDialer.dialAddress ⟨proxy, options⟩ address := by
  refine Budgeted.behind (lasts_ofExcept _) fun destination => ?_
  dsimp only
  cases proxy.scheme with
  | http => exact (Http.dial_timed proxy destination).budgeted
  | socks5 => exact (Socks.dial_timed proxy destination).budgeted

/-! Protecting a connection. -/

theorem Tls.limitStep_endsBy (has : options.deadline = some deadline) (raw : RawStream) :
    (Tls.limitStep options raw).EndsBy deadline :=
  endsBy_budget has fun _ => (raw.setLimit_lasts _).mono (Nat.zero_le _)

theorem Tls.awaitFault_endsBy {α : Type} (has : options.deadline = some deadline) (host : String)
    (room : Nat) (seen : Bytes) (raw : RawStream) :
    (Tls.awaitFault (α := α) host options room seen raw).EndsBy deadline := by
  induction room generalizing seen raw with
  | zero => exact endsBy_of_lasts lasts_fail deadline
  | succ room ih =>
      rw [Tls.awaitFault]
      unfold Tls.limitStep
      rw [bind_assoc]
      refine endsBy_timed has (raw.timed_read_lasts _) fun outcome => ?_
      obtain ⟨result, left⟩ := outcome
      refine endsBy_bind (endsBy_of_lasts (lasts_orFail _ result) deadline) fun bytes => ?_
      cases bytes with
      | nil => exact endsBy_of_lasts lasts_fail deadline
      | cons byte bytes =>
          dsimp only
          split
          · exact endsBy_of_lasts lasts_fail deadline
          · exact ih _ _

theorem Tls.agree_lasts (name : ServerName) (config : TlsConfig) (server : TlsServer)
    (raw : RawStream) : (Tls.agree name config server raw).Lasts 0 := by
  unfold Tls.agree
  refine lasts_then (lasts_get fun _ => lasts_pure) fun time => ?_
  split
  · exact lasts_fail
  · split
    · exact lasts_fail
    · split
      · exact lasts_fail
      · refine lasts_then (raw.socket.update_lasts _ fun _ => rfl) fun _ => ?_
        exact lasts_then (raw.setLimit_lasts none) fun _ => lasts_pure

theorem Tls.handshake_endsBy (has : options.deadline = some deadline) (host : String)
    (config : TlsConfig) (raw : RawStream) :
    (Tls.handshake host config options raw).EndsBy deadline := by
  unfold Tls.handshake
  split
  · exact endsBy_of_lasts lasts_fail deadline
  · unfold Tls.limitStep
    rw [bind_assoc]
    refine endsBy_timed has (raw.timed_write_lasts _) fun written => ?_
    refine endsBy_bind (endsBy_of_lasts (lasts_orFail _ written) deadline) fun _ => ?_
    refine endsBy_bind (endsBy_of_lasts (lasts_get fun _ => lasts_pure) deadline) fun server => ?_
    cases server with
    | none => exact Tls.awaitFault_endsBy has host _ [] raw
    | some server =>
        dsimp only
        split
        · refine endsBy_bind (Tls.limitStep_endsBy has raw) fun _ => ?_
          exact endsBy_of_lasts (Tls.agree_lasts _ config server raw) deadline
        · exact Tls.awaitFault_endsBy has host _ [] raw

theorem Transport.protect_budgeted (host : String) (config : TlsConfig) (transport : Transport) :
    Budgeted fun options => transport.protect host config options := by
  apply budgeted_of_started
  intro options deadline has
  cases transport with
  | tls raw session =>
      exact endsBy_of_lasts (lasts_then raw.socket.close_lasts fun _ => lasts_fail) deadline
  | plain raw =>
      refine endsBy_bind (endsBy_attempt (Tls.handshake_endsBy has host config raw))
        fun outcome => ?_
      cases outcome with
      | ok session => exact endsBy_of_lasts lasts_pure deadline
      | error error =>
          exact endsBy_of_lasts (lasts_then raw.socket.close_lasts fun _ => lasts_fail)
            deadline

theorem Connection.protect_budgeted (config : TlsConfig) (connection : Connection) :
    Budgeted fun options => connection.protect config options := by
  apply budgeted_of_started
  intro options deadline has
  cases Destination.parse connection.address with
  | error error =>
      apply endsBy_of_lasts
      exact lasts_then connection.socket.close_lasts fun _ => lasts_fail
  | ok destination =>
      refine endsBy_bind ((connection.transport.protect_budgeted _ config).endsBy has)
        fun transport => ?_
      exact endsBy_of_lasts lasts_pure deadline

/-! Looking names up. -/

theorem ProxiedResolver.receive_endsBy (has : options.deadline = some deadline) (count : Nat)
    (connection : Connection) :
    (ProxiedResolver.receive options count connection).EndsBy deadline := by
  induction count using Nat.strongRecOn generalizing connection with
  | ind count ih =>
      cases count with
      | zero =>
          rw [ProxiedResolver.receive]
          exact endsBy_of_lasts lasts_pure deadline
      | succ count =>
          rw [ProxiedResolver.receive]
          refine endsBy_timed has (connection.timed_read_lasts (count + 1)) fun outcome => ?_
          obtain ⟨result, behind⟩ := outcome
          refine endsBy_bind (endsBy_of_lasts (lasts_orFail _ result) deadline) fun bytes => ?_
          cases bytes with
          | nil => exact endsBy_of_lasts lasts_fail deadline
          | cons byte bytes =>
              refine endsBy_bind (ih _ (by omega) behind) fun rest => ?_
              exact endsBy_of_lasts lasts_pure deadline

theorem ProxiedResolver.exchange_endsBy (has : options.deadline = some deadline) (host : String)
    (type : Dns.RecordType) (connection : Connection) :
    (ProxiedResolver.exchange host type options connection).EndsBy deadline := by
  have draws : drawNumber.Lasts 0 :=
    lasts_of_run fun world => ⟨_, _, rfl, rfl, fun prompt =>
      ⟨⟨prompt.pauses, prompt.lookups, prompt.network, prompt.links⟩, Nat.le_refl _⟩⟩
  refine endsBy_bind (endsBy_of_lasts draws deadline) fun id => ?_
  refine endsBy_bind (endsBy_of_lasts (lasts_ofExcept _) deadline) fun query => ?_
  -- What the exchange does behind the check of the length of its query.
  have asks : (do
      connection.setLimit (some (← budget options))
      orFail .ofFault (← connection.write (ProxiedResolver.frame query))
      let length ← ProxiedResolver.receive options 2 connection
      let count := (length.1.getD 0 0).toNat * 256 + (length.1.getD 1 0).toNat
      let answer ← ProxiedResolver.receive options count length.2
      return (ProxiedResolver.decodeAnswers (← get).codec id host answer.1, answer.2)).EndsBy
        deadline := by
    refine endsBy_timed has (connection.timed_write_lasts _) fun written => ?_
    refine endsBy_bind (endsBy_of_lasts (lasts_orFail _ written) deadline) fun _ => ?_
    refine endsBy_bind (ProxiedResolver.receive_endsBy has 2 connection) fun length => ?_
    refine endsBy_bind (ProxiedResolver.receive_endsBy has _ length.2) fun answer => ?_
    exact endsBy_of_lasts (lasts_get fun _ => lasts_pure) deadline
  dsimp only
  split
  · exact endsBy_bind (endsBy_of_lasts lasts_fail deadline) fun _ => asks
  · exact asks

theorem ProxiedResolver.queryFamilies_endsBy (has : options.deadline = some deadline)
    (host : String) (found : List IpAddress) (failed : Option Error)
    (types : List Dns.RecordType) (connection : Connection) :
    (ProxiedResolver.queryFamilies host options found failed types connection).EndsBy
      deadline := by
  induction types generalizing found failed connection with
  | nil =>
      unfold ProxiedResolver.queryFamilies
      split
      · exact endsBy_of_lasts lasts_fail deadline
      · exact endsBy_of_lasts lasts_pure deadline
  | cons type types ih =>
      refine endsBy_bind (ProxiedResolver.exchange_endsBy has host type connection)
        fun outcome => ?_
      obtain ⟨answer, behind⟩ := outcome
      cases answer with
      | ok addresses => exact ih _ _ _
      | error error =>
          dsimp only
          split
          · exact ih _ _ _
          · exact endsBy_of_lasts lasts_fail deadline

theorem ProxiedResolver.lookup_budgeted (nameserver : SocketAddress) (proxy : Proxy)
    (host : String) (port : UInt16) :
    Budgeted fun options =>
      ProxiedResolver.lookup ⟨nameserver, ⟨proxy, options⟩⟩ host port := by
  unfold ProxiedResolver.lookup
  cases IpAddress.ofString? host with
  | some ip =>
      exact budgeted_of_lasts fun _ => lasts_pure
  | none =>
      unfold ProxyDialer.withOptions
      dsimp only
      apply budgeted_of_started
      intro options deadline has
      have dial := (ProxyDialer.dialAddress_budgeted proxy (toString nameserver)).endsBy has
      refine endsBy_bind dial fun connection => ?_
      have queries := ProxiedResolver.queryFamilies_endsBy has host [] none [.a, .aaaa] connection
      refine endsBy_bind (endsBy_attempt queries) fun result => ?_
      refine endsBy_bind (endsBy_of_lasts connection.socket.close_lasts deadline)
        fun _ => ?_
      refine endsBy_bind (endsBy_of_lasts (lasts_ofExcept result) deadline) fun addresses => ?_
      cases addresses with
      | nil => exact endsBy_of_lasts lasts_fail deadline
      | cons address rest => exact endsBy_of_lasts lasts_pure deadline

end

/-! Counting the starts. -/

section
variable {timeout count : Nat}

theorem systemLookup_lasts (host : String) (port : UInt16) : (systemLookup host port).Lasts 0 := by
  refine lasts_then (systemAddresses_lasts host.toList) fun outcome => ?_
  split
  · exact lasts_fail
  · exact lasts_fail
  · exact lasts_pure

theorem Resolver.lookup_starts {resolver : Resolver} (fits : resolver.Fits timeout) (host : String)
    (port : UInt16) : (resolver.lookup host port).Starts timeout 1 := by
  cases resolver with
  | system => exact starts_of_lasts (systemLookup_lasts host port) timeout 1
  | proxied resolver =>
      exact (ProxiedResolver.lookup_budgeted resolver.nameserver resolver.dialer.proxy host
        port).starts fits
  | custom name answer =>
      have noted : (modify fun world : World =>
          { world with asked := world.asked ++ [(host, port)] } : Dial Unit).Lasts 0 :=
        lasts_modify (fun _ => rfl) (fun _ => rfl) fun _ prompt =>
          ⟨prompt.pauses, prompt.lookups, prompt.network, prompt.links⟩
      refine starts_of_lasts (lasts_then noted fun _ => ?_) timeout 1
      exact lasts_then (lasts_awaitLookup host) fun _ => lasts_ofExcept _

/-- The resolver for all is one that fits. -/
theorem Resolver.current_starts {β : Type} {next : Resolver → Dial β}
    (rest : ∀ resolver, resolver.Fits timeout → (next resolver).Starts timeout count) :
    (Resolver.current >>= next).Starts timeout count := by
  intro world fits
  have run : Resolver.current world = (.ok (world.installed.getD .system), world) := rfl
  refine ensures_bind_of_eq run (rest _ ?_ world fits)
  cases installed : world.installed with
  | none => trivial
  | some resolver => exact fits resolver installed

/-- A lookup by the given resolver, else by the one for all. -/
theorem Resolver.choice_starts {β : Type} {given : Option Resolver} {next : Resolver → Dial β}
    (fits : ∀ resolver, given = some resolver → resolver.Fits timeout)
    (rest : ∀ resolver, resolver.Fits timeout → (next resolver).Starts timeout count) :
    Starts (do
      let resolver ← match given with
        | some resolver => pure resolver
        | none => Resolver.current
      next resolver) timeout count := by
  cases given with
  | some resolver => exact rest resolver (fits resolver rfl)
  | none => exact Resolver.current_starts rest

theorem DirectDialer.dial_starts {dialer : DirectDialer} (options : dialer.options.Fits timeout)
    (resolver : ∀ resolver, dialer.resolver = some resolver → resolver.Fits timeout)
    (address : String) : (dialer.dial address).Starts timeout 2 := by
  refine starts_behind (lasts_ofExcept _) fun destination => ?_
  refine Resolver.choice_starts resolver fun resolver fits => ?_
  refine starts_bind 1 1 (resolver.lookup_starts fits _ _) fun addresses => ?_
  refine starts_then ((connectAny_budgeted addresses).starts options) fun socket => ?_
  exact lasts_pure

/-- Each candidate that is tried takes its own starts. -/
theorem Candidates.walk_starts {dial : String → Dial Connection}
    (starts : ∀ candidate, (dial candidate).Starts timeout count) (all : List String)
    (failures : List (String × String)) (left : List String) :
    (Candidates.walk dial all failures left).Starts timeout (left.length * count) := by
  induction left generalizing failures with
  | nil => exact starts_of_lasts lasts_fail timeout _
  | cons candidate rest ih =>
      rw [List.length_cons, Nat.succ_mul, Nat.add_comm]
      refine starts_bind count _ (starts_attempt (starts candidate)) fun outcome => ?_
      cases outcome with
      | ok connection => exact starts_of_lasts lasts_pure timeout _
      | error error => exact ih _

theorem firstReachable_starts {dial : String → Dial Connection}
    (starts : ∀ candidate, (dial candidate).Starts timeout count) (candidates : Candidates) :
    (firstReachable candidates dial).Starts timeout (candidates.addresses.length * count) := by
  unfold firstReachable
  split
  · exact starts_of_lasts lasts_fail timeout _
  · exact Candidates.walk_starts starts _ _ _

theorem HostDialer.dial_starts {dialer : HostDialer} (fits : dialer.dialer.options.Fits timeout)
    (candidates : Candidates) :
    (dialer.dial candidates).Starts timeout (candidates.addresses.length + 1) := by
  have walk : (dialer.dialer.dial candidates).Starts timeout (candidates.addresses.length * 1) :=
    firstReachable_starts (fun address =>
      (ProxyDialer.dialAddress_budgeted dialer.dialer.proxy address).starts fits) candidates
  rw [Nat.mul_one] at walk
  refine starts_bind _ 1 walk fun connection => ?_
  cases dialer.tls with
  | none => exact starts_of_lasts lasts_pure timeout 1
  | some tls => exact (connection.protect_budgeted tls).starts fits

namespace ClusterConfig

/-- Whatever the cluster dials or looks up starts with options that fit. -/
structure Fits (timeout : Nat) (config : ClusterConfig) : Prop where
  options : config.options.Fits timeout
  dialer : ∀ dialer, config.dialer = some dialer → dialer.options.Fits timeout
  hostDialer : ∀ dialer, config.hostDialer = some dialer → dialer.dialer.options.Fits timeout
  resolver : ∀ resolver, config.resolver = some resolver → resolver.Fits timeout

variable {config : ClusterConfig}

theorem dialAddress_starts (fits : config.Fits timeout) (address : String) :
    (config.dialAddress address).Starts timeout 2 := by
  unfold dialAddress
  cases through : config.dialer with
  | some dialer =>
      have once := (ProxyDialer.dialAddress_budgeted dialer.proxy address).starts
        (fits.dialer dialer through)
      exact once.mono (Nat.le_succ 1)
  | none => exact DirectDialer.dial_starts fits.options fits.resolver address

theorem openAddress_starts (fits : config.Fits timeout) (address : String) :
    (config.openAddress address).Starts timeout 3 := by
  refine starts_bind 2 1 (dialAddress_starts fits address) fun connection => ?_
  cases config.tls with
  | none => exact starts_of_lasts lasts_pure timeout 1
  | some tls => exact (connection.protect_budgeted tls).starts fits.options

/-- A contact point takes three starts at most: its lookup, its connection and its protection. -/
theorem openConnection_starts (fits : config.Fits timeout) :
    config.openConnection.Starts timeout (config.hosts.length * 3 + 1) := by
  have points : config.contactPoints.addresses.length = config.hosts.length := List.length_map _
  unfold openConnection
  cases through : config.hostDialer with
  | some dialer =>
      refine (HostDialer.dial_starts (fits.hostDialer dialer through) _).mono ?_
      omega
  | none =>
      refine (firstReachable_starts (openAddress_starts fits) _).mono ?_
      omega

theorem resolveContactPoints_starts (fits : config.Fits timeout) :
    config.resolveContactPoints.Starts timeout config.hosts.length := by
  have points : config.contactPoints.addresses.length = config.hosts.length := List.length_map _
  refine Resolver.choice_starts fits.resolver fun resolver suits => ?_
  refine starts_then ?_ fun _ => lasts_pure
  rw [← points]
  generalize config.contactPoints.addresses = addresses
  induction addresses with
  | nil => exact starts_of_lasts lasts_pure timeout 0
  | cons address rest ih =>
      rw [List.mapM_cons, List.length_cons, Nat.add_comm]
      refine starts_bind 1 _ ?_ fun found => starts_then ih fun _ => lasts_pure
      exact starts_behind (lasts_ofExcept _) fun destination => resolver.lookup_starts suits _ _

end ClusterConfig

end

end ProxyDial
