import ProxyDial.Proofs.Dial.InOrder
import ProxyDial.Proofs.Dial.Installed
import ProxyDial.Proofs.Dial.Offline
import ProxyDial.Proofs.Dial.OneBudget

set_option autoImplicit false

/-! A deadline that has passed. Every step that connects, sends or reads asks for its time first, so
that with such a deadline nothing is dialed and nothing is said: each dial and each handshake ends
where it would come to its first use of the network. -/

namespace ProxyDial
open Text

/-- The options carry a deadline, and its time has come. -/
structure DialOptions.Expired (options : DialOptions) (now : Instant) : Prop where
  passed : ∃ deadline, options.deadline = some deadline ∧
    deadline.nanoseconds ≤ now.nanoseconds

/-- What has been sent over each connection, plain and protected. -/
def World.sent (world : World) : List (Bytes × Option Bytes) :=
  world.links.map fun link => (link.sent, link.tls.map fun session => session.2.1)

theorem World.Idles.sent {world behind : World} (idles : world.Idles behind) :
    behind.sent = world.sent := by
  unfold World.sent
  rw [idles.links]

theorem World.sent_update (change : Link → Link) (socket : Socket) (world : World)
    (same : ∀ link, (change link).sent = link.sent ∧ (change link).tls = link.tls) :
    (socket.update change world).2.sent = world.sent := by
  change ((world.links.modify socket.id change).map _) = world.links.map _
  apply List.ext_getElem?
  intro index
  rw [List.getElem?_map, List.getElem?_map, List.getElem?_modify]
  cases world.links[index]? with
  | none => rfl
  | some link =>
      obtain ⟨sameSent, sameTls⟩ := same link
      by_cases here : socket.id = index
      · simp [here, sameSent, sameTls]
      · simp [here]

namespace Dial

variable {α β : Type} {world behind : World}

/-- The dial fails with the error, and has neither attempted a connection nor used one. -/
def GivesUp (dial : Dial α) (error : Error) (world : World) : Prop :=
  dial.Ensures world fun result behind => result = .error (.failed error) ∧
    behind.attempts = world.attempts ∧ behind.links = world.links

/-- The dial fails for want of time, and has said nothing on any connection. -/
def StaysSilent (dial : Dial α) (world : World) : Prop :=
  dial.Ensures world fun result behind =>
    result = .error (.failed .timeout) ∧ behind.sent = world.sent

theorem ComesTo.givesUp {dial : Dial α} {error : Error}
    (comes : dial.ComesTo (.error (.failed error)) world) : dial.GivesUp error world := by
  obtain ⟨behind, run, idles⟩ := comes world (.refl world)
  exact ensures_of_eq run ⟨rfl, idles.attempts, idles.links⟩

theorem GivesUp.bind {dial : Dial α} {error : Error} (givesUp : dial.GivesUp error world)
    (next : α → Dial β) : (dial >>= next).GivesUp error world := by
  obtain ⟨failed, nothing⟩ := givesUp
  have run : dial world = (.error (.failed error), (dial world).2) := Prod.ext failed rfl
  exact ensures_of_eq (bind_error_run run next) ⟨rfl, nothing⟩

theorem ComesTo.staysSilent {dial : Dial α}
    (comes : dial.ComesTo (.error (.failed .timeout)) world) : dial.StaysSilent world := by
  obtain ⟨behind, run, idles⟩ := comes world (.refl world)
  exact ensures_of_eq run ⟨rfl, idles.sent⟩

/-- To close the connection says nothing on it. -/
theorem staysSilent_closing {handshake : Dial α} {next : Except Error α → Dial β} {socket : Socket}
    (comes : handshake.ComesTo (.error (.failed .timeout)) world)
    (closes : ∀ error, next (.error error) = socket.close >>= fun _ => .fail error) :
    (attempt handshake >>= next).StaysSilent world := by
  obtain ⟨behind, run, idles⟩ := comes world (.refl world)
  apply ensures_bind_of_eq (attempt_failed_run run)
  rw [closes]
  have closed : (socket.close behind).2.sent = behind.sent :=
    World.sent_update _ socket behind fun _ => ⟨rfl, rfl⟩
  exact ⟨rfl, closed.trans idles.sent⟩

end Dial

section
variable {options : DialOptions} {world : World} {α β : Type}

namespace DialOptions.Expired

theorem later (expired : options.Expired world.now) {later : World} (idles : world.Idles later) :
    options.Expired later.now := by
  obtain ⟨deadline, has, passed⟩ := expired.passed
  exact ⟨deadline, has, Nat.le_trans passed idles.past⟩

theorem budget_comesTo (expired : options.Expired world.now) (next : Duration → Dial α) :
    (Dial.budget options >>= next).ComesTo (.error (.failed .timeout)) world := by
  apply Dial.ComesTo.stops
  intro later idles
  obtain ⟨deadline, has, passed⟩ := (expired.later idles).passed
  refine ⟨later.looked .draws options, ?_, .looked later .draws options⟩
  rw [Dial.budget_run, budget_eq has, if_neg (Nat.not_lt_of_le passed)]
  rfl

theorem started_run (expired : options.Expired world.now) :
    Dial.started options world = (.ok options, world.looked .starts options) := by
  obtain ⟨deadline, has, -⟩ := expired.passed
  apply Dial.started_run_of
  unfold started?
  rw [has]

theorem started_comesTo (expired : options.Expired world.now) {next : DialOptions → Dial β}
    {result : Except Abort β} (goesOn : (next options).ComesTo result world) :
    (Dial.started options >>= next).ComesTo result world := by
  refine Dial.ComesTo.bind ?_ goesOn
  intro later idles
  exact ⟨_, (expired.later idles).started_run, .looked later .starts options⟩

end DialOptions.Expired

/-! Connecting. -/

theorem connectAny_expired (expired : options.Expired world.now) {addresses : List SocketAddress}
    (filled : addresses ≠ []) :
    (connectAny addresses options).ComesTo (.error (.failed .timeout)) world := by
  apply expired.started_comesTo
  cases addresses with
  | nil => exact absurd rfl filled
  | cons address rest => exact expired.budget_comesTo _

theorem connectTo_expired (expired : options.Expired world.now) {host : String}
    (literal : IsLiteral host) (port : UInt16) :
    (connectTo (joinHostPort host port) options).ComesTo (.error (.failed .timeout)) world := by
  obtain ⟨address, found⟩ := addressesOf_literal literal port
  apply expired.started_comesTo
  rw [found, pure_bind]
  exact connectAny_expired expired (List.cons_ne_nil address [])

theorem ProxyDialer.dialAddress_expired (expired : options.Expired world.now) {proxy : Proxy}
    (literal : IsLiteral proxy.host) {address : String} {destination : Destination}
    (parsed : Destination.parse address = .ok destination) :
    (dialAddress ⟨proxy, options⟩ address).ComesTo (.error (.failed .timeout)) world := by
  have connects := connectTo_expired expired literal proxy.port
  unfold dialAddress
  rw [parsed]
  apply (Dial.comesTo_pure destination).bind
  dsimp only
  cases proxy.scheme with
  | http => exact expired.started_comesTo (connects.stops _)
  | socks5 => exact expired.started_comesTo (connects.stops _)

/-! Handshakes on a connection that is there. -/

theorem Http.openTunnel_expired (expired : options.Expired world.now) (destination : Destination)
    (authorization : Option String) (socket : Socket) :
    (Http.openTunnel destination authorization options socket).StaysSilent world := by
  apply Dial.ensures_bind_of_eq expired.started_run
  have begun : options.Expired (world.looked .starts options).now :=
    expired.later (.looked world .starts options)
  exact Dial.staysSilent_closing (begun.budget_comesTo _) fun _ => rfl

theorem Socks.handshake_expired (expired : options.Expired world.now) (destination : Destination)
    (credentials : Option Credentials) (socket : Socket) :
    (Socks.handshake destination credentials options socket).StaysSilent world := by
  have greets : (Socks.send (Socks.greeting credentials) options socket).ComesTo
      (.error (.failed .timeout)) world := expired.budget_comesTo _
  have negotiates : (Socks.negotiate credentials options socket).ComesTo
      (.error (.failed .timeout)) world := greets.stops _
  exact (expired.started_comesTo (negotiates.stops _)).staysSilent

theorem Transport.protect_expired (expired : options.Expired world.now) {host : String}
    {name : Tls.ServerName} (named : Tls.ServerName.ofString? host = some name) (config : TlsConfig)
    (raw : RawStream) :
    (Transport.protect host config options (.plain raw)).StaysSilent world := by
  apply Dial.ensures_bind_of_eq expired.started_run
  have begun : options.Expired (world.looked .starts options).now :=
    expired.later (.looked world .starts options)
  have limits : (Tls.limitStep options raw).ComesTo (.error (.failed .timeout))
      (world.looked .starts options) := begun.budget_comesTo _
  have comes : (Tls.handshake host config options raw).ComesTo (.error (.failed .timeout))
      (world.looked .starts options) := by
    unfold Tls.handshake
    rw [named]
    exact limits.stops _
  exact Dial.staysSilent_closing comes fun _ => rfl

/-! Dialing. -/

theorem DirectDialer.dial_eq {dialer : DirectDialer} {address : String} {destination : Destination}
    (parsed : Destination.parse address = .ok destination) (world : World) :
    dialer.dial address world =
      ((world.resolver dialer.resolver).lookup destination.host destination.port >>=
        fun addresses => connectAny addresses dialer.options >>= fun socket =>
          pure ⟨.plain (.direct socket), destination.authority⟩) world := by
  unfold dial World.resolver
  rw [parsed, Dial.bind_run, Dial.ofExcept_run]
  cases dialer.resolver with
  | none => rfl
  | some resolver => rfl

/-- Where the resolver answers without a connection, there is no time left for one. -/
theorem DirectDialer.dial_expired {dialer : DirectDialer}
    (expired : dialer.options.Expired world.now) {address : String} {destination : Destination}
    (parsed : Destination.parse address = .ok destination)
    (offline : (world.resolver dialer.resolver).AnswersOffline destination.host destination.port
        world) :
    (dialer.dial address).ComesTo (.error (.failed .timeout)) world := by
  obtain ⟨addresses, filled, answers⟩ := offline.comesTo
  intro later idles
  have unmoved : later.resolver dialer.resolver = world.resolver dialer.resolver := by
    unfold World.resolver
    rw [idles.installed]
  rw [dialer.dial_eq parsed, unmoved]
  exact answers.bind ((connectAny_expired expired filled).stops _) later idles

/-- A dial of an address that has all it needs before it comes to the network: through a proxy at an
IP address, or straight to what a resolver tells without a connection. What is done with the
connection that it returns does not matter. -/
inductive Prepared (options : DialOptions) (world : World) (address : String) :
    (String → Dial Connection) → Prop
  | proxied {proxy : Proxy} {destination : Destination} (literal : IsLiteral proxy.host)
      (parsed : Destination.parse address = .ok destination) :
      Prepared options world address (ProxyDialer.dialAddress ⟨proxy, options⟩)
  | direct {dialer : DirectDialer} {destination : Destination} (same : dialer.options = options)
      (parsed : Destination.parse address = .ok destination)
      (offline : (world.resolver dialer.resolver).AnswersOffline destination.host destination.port
        world) :
      Prepared options world address dialer.dial
  | upgraded {dial : String → Dial Connection} (prepared : Prepared options world address dial)
      (upgrade : Connection → Dial Connection) :
      Prepared options world address fun address => dial address >>= upgrade

variable {address : String} {dial : String → Dial Connection}

theorem Prepared.comesTo (prepared : Prepared options world address dial)
    (expired : options.Expired world.now) :
    (dial address).ComesTo (.error (.failed .timeout)) world := by
  induction prepared with
  | proxied literal parsed => exact ProxyDialer.dialAddress_expired expired literal parsed
  | direct same parsed offline =>
      subst same
      exact DirectDialer.dial_expired expired parsed offline
  | upgraded prepared upgrade ih => exact ih.stops upgrade

/-- What a walk fails with if the time is up at each candidate. -/
def Candidates.outOfTime (candidates : Candidates) : Error :=
  .connect (.candidatesExhausted candidates.addresses
    (candidates.addresses.map fun address => (address, Error.timeout.message)))

theorem Prepared.failed (expired : options.Expired world.now) {addresses : List String}
    (prepared : ∀ address ∈ addresses, Prepared options world address dial)
    {later : World} (idles : world.Idles later) : ∃ behind,
      Candidates.Failed dial (addresses.map (·, .timeout)) later behind ∧ later.Idles behind := by
  induction addresses generalizing later with
  | nil => exact ⟨later, .nil, .refl later⟩
  | cons address rest ih =>
      obtain ⟨middle, run, still⟩ := (prepared address (.head _)).comesTo expired later idles
      obtain ⟨behind, failed, further⟩ :=
        ih (fun other member => prepared other (.tail _ member)) (idles.trans still)
      exact ⟨behind, .cons run failed, still.trans further⟩

theorem Prepared.walk (expired : options.Expired world.now) {candidates : Candidates}
    (filled : candidates.addresses ≠ [])
    (prepared : ∀ address ∈ candidates.addresses, Prepared options world address dial) :
    (firstReachable candidates dial).GivesUp candidates.outOfTime world := by
  obtain ⟨behind, failed, idles⟩ := Prepared.failed expired prepared (.refl world)
  have named : (candidates.addresses.map (·, Error.timeout)).map Prod.fst =
      candidates.addresses := by
    rw [List.map_map]
    exact List.map_id _
  have told : (candidates.addresses.map (·, Error.timeout)).map Candidates.told =
      candidates.addresses.map fun address => (address, Error.timeout.message) := by
    simp [Candidates.told]
  have walked := Candidates.Walked.exhausted (by simpa using filled) failed
  rw [named, told] at walked
  exact Dial.ensures_of_eq walked.run ⟨rfl, idles.attempts, idles.links⟩

/-- With a deadline that has passed, nothing is touched. Each dial fails with a timeout, and a walk
tells this of every candidate, without a connection that is attempted or used. A handshake on a
connection that is there fails with a timeout and says nothing. -/
theorem expired_touches_nothing (expired : options.Expired world.now) :
    (∀ dial address, Prepared options world address dial →
      (dial address).GivesUp .timeout world) ∧
    (∀ dial (candidates : Candidates), candidates.addresses ≠ [] →
      (∀ address ∈ candidates.addresses, Prepared options world address dial) →
        (firstReachable candidates dial).GivesUp candidates.outOfTime world) ∧
    (∀ (proxy : Proxy) (candidates : Candidates), IsLiteral proxy.host →
      candidates.addresses ≠ [] →
      (∀ address ∈ candidates.addresses, ∃ destination,
        Destination.parse address = .ok destination) →
        (ProxyDialer.dial ⟨proxy, options⟩ candidates).GivesUp candidates.outOfTime world ∧
        ∀ tls isSocks, (HostDialer.dial ⟨⟨proxy, options⟩, tls, isSocks⟩ candidates).GivesUp
          candidates.outOfTime world) ∧
    (∀ destination authorization socket,
      (Http.openTunnel destination authorization options socket).StaysSilent world) ∧
    (∀ destination credentials socket,
      (Socks.handshake destination credentials options socket).StaysSilent world) ∧
    (∀ host config raw, (Tls.ServerName.ofString? host).isSome →
      (Transport.protect host config options (.plain raw)).StaysSilent world) := by
  refine ⟨?dial, ?walk, ?proxied, ?http, ?socks, ?tls⟩
  case dial =>
    intro dial address prepared
    exact (prepared.comesTo expired).givesUp
  case walk =>
    intro dial candidates filled prepared
    exact Prepared.walk expired filled prepared
  case proxied =>
    intro proxy candidates literal filled parse
    have walk : (ProxyDialer.dial ⟨proxy, options⟩ candidates).GivesUp candidates.outOfTime
        world := by
      apply Prepared.walk expired filled
      intro address member
      obtain ⟨destination, parsed⟩ := parse address member
      exact .proxied literal parsed
    constructor
    · exact walk
    · intro tls isSocks
      exact walk.bind _
  case http => exact Http.openTunnel_expired expired
  case socks => exact Socks.handshake_expired expired
  case tls =>
    intro host config raw valid
    obtain ⟨name, named⟩ := Option.isSome_iff_exists.mp valid
    exact Transport.protect_expired expired named config raw

end

/-- A host where each connection would be made, with one that is open, some time after the start. -/
def lateWorld : World :=
  { World.linked (.ofStream [] (.closed ⟨0⟩)) with
    network := fun _ _ => .accepted ⟨0⟩ (.ofStream [] (.closed ⟨0⟩))
    now := ⟨2⟩ }

/-- Options whose deadline has passed by then. -/
def lateOptions : DialOptions := DialOptions.default.withDeadline ⟨1⟩

/-- A resolver that has one address for all. -/
def oneForAll : Resolver :=
  .custom "one" fun _ port => .ok [.ofIp (.v4 ⟨10, 0, 0, 9⟩) port]

/-- A proxy of either protocol, a straight dial and its protection, and the three handshakes. -/
theorem late_dials_touch_nothing :
    (ProxyDialer.dialAddress ⟨⟨.http, "10.0.0.5", 3128, none⟩, lateOptions⟩ "db:9042").GivesUp
      .timeout lateWorld ∧
    (firstReachable ⟨["db:9042", "[::1]:9042"]⟩ fun address =>
      DirectDialer.dial ⟨some oneForAll, lateOptions⟩ address >>=
        (·.protect ⟨[], false, none⟩ lateOptions)).GivesUp
      (Candidates.outOfTime ⟨["db:9042", "[::1]:9042"]⟩) lateWorld ∧
    (HostDialer.dial ⟨⟨⟨.socks5, "::1", 1080, none⟩, lateOptions⟩, some ⟨[], false, none⟩, rfl⟩
      ⟨["db:9042"]⟩).GivesUp (Candidates.outOfTime ⟨["db:9042"]⟩) lateWorld ∧
    (Http.openTunnel ⟨"db", 9042⟩ none lateOptions ⟨0⟩).StaysSilent lateWorld ∧
    (Socks.handshake ⟨"db", 9042⟩ none lateOptions ⟨0⟩).StaysSilent lateWorld ∧
    (Transport.protect "db" ⟨[], false, none⟩ lateOptions (.plain (.direct ⟨0⟩))).StaysSilent
      lateWorld := by
  have expired : lateOptions.Expired lateWorld.now := ⟨⟨1⟩, rfl, by decide⟩
  obtain ⟨dial, walk, proxied, http, socks, tls⟩ := expired_touches_nothing expired
  have name : Destination.parse "db:9042" = .ok ⟨"db", 9042⟩ := by decide +kernel
  have loopback : Destination.parse "[::1]:9042" = .ok ⟨"::1", 9042⟩ := by decide +kernel
  have v4 : IsLiteral "10.0.0.5" := .bare (by decide +kernel : _ = some (.v4 ⟨10, 0, 0, 5⟩))
  have v6 : IsLiteral "::1" :=
    .bare (by decide +kernel : _ = some (.v6 (.ofList [0, 0, 0, 0, 0, 0, 0, 1])))
  have answers (host : String) : oneForAll.AnswersOffline host 9042 lateWorld :=
    ⟨rfl, _, rfl, List.cons_ne_nil _ _⟩
  have straight {address host : String} (parsed : Destination.parse address = .ok ⟨host, 9042⟩) :
      Prepared lateOptions lateWorld address (DirectDialer.dial ⟨some oneForAll, lateOptions⟩) :=
    .direct rfl parsed (answers host)
  have valid : (Tls.ServerName.ofString? "db").isSome := by decide +kernel
  refine ⟨dial _ _ (.proxied v4 name), ?_, (proxied _ ⟨["db:9042"]⟩ v6 (by decide) ?_).2 _ rfl,
    http _ _ _, socks _ _ _, tls _ _ _ valid⟩
  · apply walk _ ⟨["db:9042", "[::1]:9042"]⟩ (by decide)
    intro address member
    rcases List.mem_pair.mp member with rfl | rfl
    · exact .upgraded (straight name) _
    · exact .upgraded (straight loopback) _
  · intro address member
    rw [List.mem_singleton.mp member]
    exact ⟨_, name⟩

end ProxyDial
