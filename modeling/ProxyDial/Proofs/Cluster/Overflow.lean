import ProxyDial.Cluster.Setup
import ProxyDial.Proofs.Cluster.Step
import ProxyDial.Proofs.Dial.Budget

set_option autoImplicit false

/-! Which settings let a dial overflow the clock. Wherever a dial or a lookup starts, the timeout of
the settings is added to the present instant, and settings with any timeout but zero are accepted.
So there are accepted settings with which nothing can be dialed. A dial overflows only where the
clock has no room for one more timeout, and so, unless something else takes time, none does as long
as there is room for all the starts that it may make. -/

namespace ProxyDial

/-- What precedes is computed, and changes nothing in the world. -/
theorem Dial.ensures_ofExcept {α β : Type} {outcome : Except Error α} {next : α → Dial β}
    {world : World} {post : Except Abort β → World → Prop}
    (failed : ∀ error, outcome = .error error → post (.error (.failed error)) world)
    (ok : ∀ value, outcome = .ok value → (next value).Ensures world post) :
    Dial.Ensures (Dial.ofExcept outcome >>= next) world post := by
  cases outcome with
  | ok value => exact Dial.ensures_bind_of_eq rfl (ok value rfl)
  | error error => exact Dial.ensures_bind (Dial.ensures_fail (failed error rfl))

namespace Cluster

/-- The cluster has these contact points and options, and whatever it dials fits their timeout. -/
structure Serves (hosts : List String) (options : DialOptions) (cluster : Cluster) : Prop where
  sameHosts : cluster.config.hosts = hosts
  sameOptions : cluster.config.options = options
  fits : cluster.config.Fits options.timeout.nanoseconds

variable {hosts : List String} {options : DialOptions} {cluster next : Cluster}

/-- A cluster without a dialer and a resolver of its own. -/
theorem serves_ofHosts (fits : options.Fits options.timeout.nanoseconds) (hosts : List String)
    (keyspace : String) :
    (((ofHosts hosts).withOptions options).withAuthKeyspace keyspace).Serves hosts options := by
  refine ⟨rfl, rfl, fits, ?_, ?_, ?_⟩
  all_goals rintro _ ⟨⟩

theorem Serves.withProxy (serves : cluster.Serves hosts options) {proxy : Proxy}
    {shape : DialerShape} (installed : cluster.withProxy proxy shape = .ok next) :
    next.Serves hosts options := by
  obtain ⟨sameHosts, same, fits, dialer, hostDialer, resolver⟩ := serves
  cases installed_of_withProxy installed with
  | address =>
      refine ⟨sameHosts, same, fits, ?_, nofun, resolver⟩
      rintro _ ⟨⟩
      exact fits
  | host isSocks =>
      refine ⟨sameHosts, same, fits, nofun, ?_, resolver⟩
      rintro _ ⟨⟩
      exact fits

theorem Serves.withTls (serves : cluster.Serves hosts options) (tls : TlsConfig) :
    (cluster.withTls tls).Serves hosts options := by
  obtain ⟨sameHosts, same, fits, dialer, hostDialer, resolver⟩ := serves
  unfold Cluster.withTls
  dsimp only
  split
  next plain through =>
    refine ⟨sameHosts, same, fits, dialer, ?_, resolver⟩
    rintro _ ⟨⟩
    exact hostDialer plain through
  · exact ⟨sameHosts, same, fits, dialer, hostDialer, resolver⟩

theorem Serves.withLogin (serves : cluster.Serves hosts options) (login : Credentials) :
    (cluster.withLogin login).Serves hosts options := by
  obtain ⟨sameHosts, same, fits, dialer, hostDialer, resolver⟩ := serves
  exact ⟨sameHosts, same, fits, dialer, hostDialer, resolver⟩

theorem Serves.withResolver (serves : cluster.Serves hosts options) {resolver : Resolver}
    (suits : resolver.Fits options.timeout.nanoseconds) :
    (cluster.withResolver (some resolver)).Serves hosts options := by
  obtain ⟨sameHosts, same, fits, dialer, hostDialer, -⟩ := serves
  refine ⟨sameHosts, same, fits, dialer, hostDialer, ?_⟩
  rintro _ ⟨⟩
  exact suits

/-- A cluster that is made serves, and the resolver for all fits as well. -/
def Settled (hosts : List String) (options : DialOptions) (result : Except Abort Cluster)
    (behind : World) : Prop :=
  ∀ cluster, result = .ok cluster → cluster.Serves hosts options ∧
    ∀ resolver, behind.installed = some resolver → resolver.Fits options.timeout.nanoseconds

theorem settled_of_error {abort : Abort} {behind : World} :
    Settled hosts options (.error abort) behind := by
  rintro cluster ⟨⟩

/-- The resolver that is made and installed asks with the given options. -/
theorem installNameserver_ensures (proxy : Proxy) (nameserver : String) (options : DialOptions)
    (world : World) : (installNameserver proxy nameserver options).Ensures world
      fun result behind => ∀ resolver, result = .ok resolver →
        resolver.dialer.options = options ∧ behind.installed = some (.proxied resolver) := by
  apply Dial.ensures_ofExcept
  · rintro error - resolver ⟨⟩
  · intro resolver made
    rintro _ ⟨⟩
    refine ⟨?_, rfl⟩
    unfold ProxiedResolver.ofText at made
    split at made
    · cases made
      rfl
    · cases made

theorem withSettingsNameserver_settled {world : World} (serves : cluster.Serves hosts options)
    (prior : ∀ resolver, world.installed = some resolver →
      resolver.Fits options.timeout.nanoseconds)
    (proxy : Option (Proxy × DialerShape)) (nameserver : Option String) :
    (cluster.withSettingsNameserver proxy nameserver).Ensures world (Settled hosts options) := by
  have unchanged : Settled hosts options (.ok cluster) world := by
    rintro _ ⟨⟩
    exact ⟨serves, prior⟩
  cases proxy with
  | none => exact unchanged
  | some named =>
      cases nameserver with
      | none => exact unchanged
      | some nameserver =>
          apply Dial.ensures_bind
          refine (installNameserver_ensures named.1 nameserver cluster.config.options world).mono ?_
          intro result behind made
          cases result with
          | error abort => exact settled_of_error
          | ok resolver =>
              obtain ⟨same, installed⟩ := made resolver rfl
              have fits : (Resolver.proxied resolver).Fits options.timeout.nanoseconds := by
                change resolver.dialer.options.Fits options.timeout.nanoseconds
                rw [same]
                exact serves.fits.options
              rintro _ ⟨⟩
              refine ⟨serves.withResolver fits, ?_⟩
              intro other there
              change behind.installed = some other at there
              rw [installed] at there
              cases there
              exact fits

/-- Settings that are accepted make a cluster whose dials and lookups all fit their timeout. -/
theorem ofSettings_settled (settings : Settings) (environment : Environment) {world : World}
    (prior : ∀ resolver, world.installed = some resolver →
      resolver.Fits settings.dialOptions.timeout.nanoseconds) :
    (ofSettings settings environment).Ensures world
      (Settled settings.hosts settings.dialOptions) := by
  have fits : settings.dialOptions.Fits settings.dialOptions.timeout.nanoseconds := by
    refine ⟨?_, Nat.le_refl _⟩
    unfold Settings.dialOptions
    cases settings.timeoutSeconds <;> rfl
  apply Dial.ensures_ofExcept (fun _ _ => settled_of_error)
  intro valid _
  apply Dial.ensures_ofExcept (fun _ _ => settled_of_error)
  intro proxy _
  apply Dial.ensures_bind
  refine (withSettingsNameserver_settled (serves_ofHosts fits settings.hosts _) prior proxy
    settings.nameserver?).mono ?_
  intro result behind settled
  cases result with
  | error abort => exact settled_of_error
  | ok named =>
      obtain ⟨serves, installed⟩ := settled named rfl
      apply Dial.ensures_ofExcept (fun _ _ => settled_of_error)
      intro dialing made
      have dials : dialing.Serves settings.hosts settings.dialOptions := by
        cases proxy with
        | none =>
            cases made
            exact serves
        | some found => exact serves.withProxy made
      apply Dial.ensures_ofExcept (fun _ _ => settled_of_error)
      intro safe made
      have safely : safe.Serves settings.hosts settings.dialOptions := by
        cases protection : settings.tls with
        | none =>
            rw [protection] at made
            cases made
            exact dials
        | some tls =>
            rw [protection] at made
            obtain ⟨config, -, same⟩ := Dial.bind_ok made
            cases same
            exact dials.withTls config
      cases settings.login with
      | none =>
          rintro _ ⟨⟩
          exact ⟨safely, installed⟩
      | some login =>
          rintro _ ⟨⟩
          exact ⟨safely.withLogin login, installed⟩

theorem Serves.createSession_starts (serves : cluster.Serves hosts options) :
    cluster.createSession.Starts options.timeout.nanoseconds (hosts.length * 3 + 1) := by
  have opening := ClusterConfig.openConnection_starts serves.fits
  rw [serves.sameHosts] at opening
  refine Dial.starts_then opening fun connection => ?_
  refine Dial.lasts_then ?_ fun _ => Dial.lasts_pure
  unfold closeSession
  cases cluster.session with
  | none => exact Dial.lasts_pure
  | some session => exact Dial.lasts_then session.socket.close_lasts fun _ => Dial.lasts_pure

/-- Where a dial overflows the clock, it has come to where there is no room for the timeout. -/
def OverflowsLate {α : Type} (dial : Dial α) (timeout : Nat) (world : World) : Prop :=
  dial.Ensures world fun result behind => result = .error .clockOverflow →
    Instant.limit ≤ behind.now.nanoseconds + timeout

/-- With settings that are accepted, a start overflows the clock exactly when their timeout reaches
beyond its last instant, and neither the dials of a session nor lookups overflow it earlier. In a
world where only its peers are waited for, they do not overflow it while there is room for as many
timeouts as the dials of one session may start, at whatever instant they begin. -/
theorem dials_overflow_for_want_of_room {settings : Settings} {environment : Environment}
    {before world : World} {cluster : Cluster}
    (built : ofSettings settings environment before = (.ok cluster, world))
    (prior : ∀ resolver, before.installed = some resolver →
      resolver.Fits settings.dialOptions.timeout.nanoseconds) :
    (∀ now, cluster.config.options.started? now = none ↔
      Instant.limit ≤ now.nanoseconds + settings.dialOptions.timeout.nanoseconds) ∧
    ∀ later : World, later.installed = world.installed →
      (OverflowsLate cluster.createSession settings.dialOptions.timeout.nanoseconds later ∧
        OverflowsLate cluster.config.resolveContactPoints
          settings.dialOptions.timeout.nanoseconds later ∧
        ∀ host port, OverflowsLate (Resolver.current >>= (·.lookup host port))
          settings.dialOptions.timeout.nanoseconds later) ∧
      (later.Prompt →
        later.now.nanoseconds +
          (settings.hosts.length * 3 + 1) * settings.dialOptions.timeout.nanoseconds <
            Instant.limit →
        (cluster.createSession later).1 ≠ .error .clockOverflow ∧
          (cluster.config.resolveContactPoints later).1 ≠ .error .clockOverflow ∧
          ∀ host port, ((Resolver.current >>= (·.lookup host port)) later).1 ≠
            .error .clockOverflow) := by
  obtain ⟨serves, installed⟩ :=
    (ofSettings_settled settings environment prior).of_run built cluster rfl
  constructor
  · intro now
    rw [← serves.sameOptions]
    exact DialOptions.started?_eq_none_iff serves.fits.options.free
  · intro later same
    have fits : ∀ resolver, later.installed = some resolver →
        resolver.Fits settings.dialOptions.timeout.nanoseconds := by
      rw [same]
      exact installed
    have opens := serves.createSession_starts later fits
    have resolves := ClusterConfig.resolveContactPoints_starts serves.fits later fits
    rw [serves.sameHosts] at resolves
    have looks (host : String) (port : UInt16) :
        (Resolver.current >>= (·.lookup host port)).Ensures later
          (Dial.Begun settings.dialOptions.timeout.nanoseconds 1 later) :=
      Resolver.current_starts (fun resolver suits => resolver.lookup_starts suits host port) later
        fits
    constructor
    · exact ⟨opens.overflow, resolves.overflow, fun host port => (looks host port).overflow⟩
    · intro prompt room
      -- Each of the three takes no more starts than there is room for.
      have enough (count : Nat) (le : count ≤ settings.hosts.length * 3 + 1) :
          later.now.nanoseconds + count * settings.dialOptions.timeout.nanoseconds <
            Instant.limit :=
        Nat.lt_of_le_of_lt (Nat.add_le_add_left (Nat.mul_le_mul_right _ le) _) room
      exact ⟨(opens.clock prompt room).1, (resolves.clock prompt (enough _ (by omega))).1,
        fun host port => ((looks host port).clock prompt (enough 1 (by omega))).1⟩

/-- Settings of which the timeout, in seconds, is left to be chosen. -/
def timedSettings (seconds : Nat) : Settings :=
  { Settings.empty with
    host := some "10.0.0.5"
    proxy := some "socks5://10.0.0.1:1080"
    nameserver := some "10.0.0.53"
    timeoutSeconds := some seconds }

theorem isolated_prompt (installed : Option Resolver) :
    World.Prompt { World.isolated with installed := installed } :=
  ⟨fun _ => rfl, fun _ _ => rfl, nofun, nofun⟩

/-- With half a minute there is room for every start. -/
theorem half_minute_keeps_clock : ∃ cluster world,
    ofSettings (timedSettings 30) .empty .isolated = (.ok cluster, world) ∧
      World.isolated.installed = none ∧
      World.Prompt { World.isolated with installed := world.installed } ∧
      (cluster.createSession { World.isolated with installed := world.installed }).1 ≠
        .error .clockOverflow := by
  have accepted : (ofSettings (timedSettings 30) .empty .isolated).1.isOk = true := by
    decide +kernel
  obtain ⟨cluster, world, built⟩ := Dial.run_of_isOk accepted
  have prior : ∀ resolver, World.isolated.installed = some resolver →
      resolver.Fits (timedSettings 30).dialOptions.timeout.nanoseconds := by
    rintro _ ⟨⟩
  let later : World := { World.isolated with installed := world.installed }
  have prompt : later.Prompt := isolated_prompt world.installed
  have room : World.isolated.now.nanoseconds + ((timedSettings 30).hosts.length * 3 + 1) *
      (timedSettings 30).dialOptions.timeout.nanoseconds < Instant.limit := by
    decide +kernel
  exact ⟨cluster, world, built, rfl, prompt,
    (((dials_overflow_for_want_of_room built prior).2 later rfl).2 prompt room).1⟩

/-- The largest timeout that settings can hold is accepted, and the first dial overflows. -/
theorem largest_timeout_overflows_clock : ∃ cluster world,
    ofSettings (timedSettings 18446744073709551615) .empty .isolated = (.ok cluster, world) ∧
      (cluster.createSession world).1 = .error .clockOverflow := by
  have accepted : (ofSettings (timedSettings 18446744073709551615) .empty .isolated).1.isOk =
      true := by
    decide +kernel
  have uncaught : (Dial.attempt (ofSettings (timedSettings 18446744073709551615) .empty >>=
      (·.createSession)) .isolated).1.isOk = false := by
    decide +kernel
  obtain ⟨cluster, world, built⟩ := Dial.run_of_isOk accepted
  have overflow := Dial.overflow_of_uncaught uncaught
  rw [Dial.bind_run, built] at overflow
  exact ⟨cluster, world, built, overflow⟩

end Cluster

end ProxyDial
