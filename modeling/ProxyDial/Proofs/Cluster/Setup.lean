import ProxyDial.Cluster.Setup
import ProxyDial.Proofs.Dial.Outcome
import ProxyDial.Proofs.Proxy.Shape

set_option autoImplicit false

/-! What a setup from settings does to the world. Where the settings name a proxy and a nameserver,
the resolver that asks through the proxy becomes the one for all, and nothing else happens. This
comes before TLS is set up. So settings with TLS material that is refused leave the resolver behind,
and no other failure does. -/

namespace ProxyDial
open Text

namespace Settings

/-- The resolver that a setup makes the one for all: the settings are in order, and they name a
proxy and a nameserver. -/
def installs? (settings : Settings) (environment : Environment) : Option ProxiedResolver :=
  match settings.validate, Proxy.resolveWithShape settings.proxy environment,
      settings.nameserver?.bind IpAddress.ofString? with
  | .ok (), .ok (some (proxy, _)), some ip =>
      some ⟨.ofIp ip ProxiedResolver.port, proxy, settings.dialOptions⟩
  | _, _, _ => none

/-- The nameserver of settings that are in order is an IP address. -/
theorem nameserver_isAddress {settings : Settings} {nameserver : String}
    (valid : settings.validate = .ok ()) (named : settings.nameserver? = some nameserver) :
    ∃ ip, IpAddress.ofString? nameserver = some ip := by
  cases read : IpAddress.ofString? nameserver with
  | some ip => exact ⟨ip, rfl⟩
  | none =>
      have refused : settings.nameserver?.filter (fun text => (IpAddress.ofString? text).isNone) =
          some nameserver := by
        rw [named]
        simp [read]
      unfold validate at valid
      rw [refused] at valid
      split at valid
      · cases valid
      · split at valid <;> cases valid

/-- The resolver for a nameserver of settings that are in order is always made. -/
theorem nameserver_read {settings : Settings} {nameserver : String} {ip : IpAddress}
    (named : settings.nameserver? = some nameserver)
    (isAddress : IpAddress.ofString? nameserver = some ip) (dialer : ProxyDialer) :
    ProxiedResolver.ofText dialer nameserver = .ok ⟨.ofIp ip ProxiedResolver.port, dialer⟩ := by
  unfold ProxiedResolver.ofText
  obtain ⟨trims, -⟩ := nonBlank?_eq_some named
  rw [trims]
  unfold IpAddress.ofString? at isAddress
  rw [isAddress]

end Settings

namespace Cluster

/-- The dialer for a proxy that has been found is always made. -/
theorem withSettingsProxy_ok (cluster : Cluster) {explicit : Option String}
    {environment : Environment} {proxy : Option (Proxy × DialerShape)}
    (found : Proxy.resolveWithShape explicit environment = .ok proxy) :
    ∃ next, cluster.withSettingsProxy proxy = .ok next := by
  cases proxy with
  | none => exact ⟨cluster, rfl⟩
  | some named =>
      obtain ⟨proxy, shape⟩ := named
      cases shape with
      | address => exact ⟨_, rfl⟩
      | host =>
          have isSocks : proxy.scheme = .socks5 := Proxy.resolveWithShape_scheme found
          have made : HostDialer.ofProxy proxy = .ok ⟨.ofProxy proxy, none, isSocks⟩ :=
            dif_pos isSocks
          simp only [withSettingsProxy, withProxy, hostDialer, made, bind, Except.bind]
          cases cluster.config.tls with
          | none => exact ⟨_, rfl⟩
          | some tls => exact ⟨_, rfl⟩

/-- The steps of a setup behind the nameserver: the dialer, TLS and the login. -/
def finish (settings : Settings) (proxy : Option (Proxy × DialerShape)) (cluster : Cluster) :
    Dial Cluster := do
  let cluster ← Dial.ofExcept (withSettingsProxy cluster proxy)
  let cluster ← Dial.ofExcept (withSettingsTls cluster settings.tls)
  match settings.login with
  | some login => return cluster.withLogin login
  | none => return cluster

/-- These steps leave the world alone, and of them only TLS can fail. -/
theorem finish_failed {cluster : Cluster} {settings : Settings} {environment : Environment}
    {proxy : Option (Proxy × DialerShape)} {world behind : World} {abort : Abort}
    (found : Proxy.resolveWithShape settings.proxy environment = .ok proxy)
    (run : finish settings proxy cluster world = (.error abort, behind)) :
    behind = world ∧ ∃ tls error, settings.tls = some tls ∧ tlsOfSettings tls = .error error ∧
      abort = .failed error := by
  have noLogin (cluster : Cluster) : (match settings.login with
      | some login => pure (cluster.withLogin login)
      | none => pure cluster : Dial Cluster) world ≠ (.error abort, behind) := by
    intro impossible
    cases login : settings.login with
    | none =>
        rw [login] at impossible
        cases impossible
    | some credentials =>
        rw [login] at impossible
        cases impossible
  obtain ⟨dialing, made⟩ := withSettingsProxy_ok cluster found
  unfold finish at run
  simp only [Dial.bind_run, made, Dial.ofExcept_run] at run
  cases protection : settings.tls with
  | none =>
      rw [protection] at run
      exact absurd run (noLogin dialing)
  | some tls =>
      rw [protection] at run
      cases read : tlsOfSettings tls with
      | error error =>
          simp only [withSettingsTls, read, bind, Except.bind] at run
          cases run
          exact ⟨rfl, tls, error, rfl, read, rfl⟩
      | ok config =>
          simp only [withSettingsTls, read, bind, Except.bind, pure, Except.pure] at run
          exact absurd run (noLogin (dialing.withTls config))

/-- The step that installs the nameserver does not fail once the settings are in order and the proxy
is found. -/
theorem withSettingsNameserver_run {settings : Settings} {environment : Environment}
    {proxy : Option (Proxy × DialerShape)} (valid : settings.validate = .ok ())
    (found : Proxy.resolveWithShape settings.proxy environment = .ok proxy) {cluster : Cluster}
    (options : cluster.config.options = settings.dialOptions) (world : World) :
    ∃ next, cluster.withSettingsNameserver proxy settings.nameserver? world =
      (.ok next, match settings.installs? environment with
        | some resolver => { world with installed := some (.proxied resolver) }
        | none => world) := by
  unfold Settings.installs? withSettingsNameserver
  rw [valid, found]
  cases proxy with
  | none => exact ⟨_, rfl⟩
  | some named =>
      obtain ⟨proxy, shape⟩ := named
      cases nameserver : settings.nameserver? with
      | none => exact ⟨_, rfl⟩
      | some address =>
          obtain ⟨ip, isAddress⟩ := Settings.nameserver_isAddress valid nameserver
          simp only [installNameserver, Dial.bind_run, Dial.ofExcept_run, options, isAddress,
            Settings.nameserver_read nameserver isAddress, Option.bind_some]
          exact ⟨_, rfl⟩

/-- A setup that fails leaves the world as it was, unless the settings install a resolver. Then it
is TLS that was refused, and the resolver has been made the one for all. -/
theorem failed_setup_leaves_resolver_of_refused_tls {settings : Settings}
    {environment : Environment} {world behind : World} {error : Error}
    (failed : ofSettings settings environment world = (.error (.failed error), behind)) :
    (settings.installs? environment = none ∧ behind = world) ∨
      ∃ resolver tls, settings.installs? environment = some resolver ∧ settings.tls = some tls ∧
        tlsOfSettings tls = .error error ∧
        behind = { world with installed := some (.proxied resolver) } := by
  unfold ofSettings at failed
  generalize (settings.authKeyspace.filter (· ≠ "")).getD defaultAuthKeyspace = name at failed
  have options : (((ofHosts settings.hosts).withOptions settings.dialOptions).withAuthKeyspace
      name).config.options = settings.dialOptions := rfl
  rw [Dial.bind_run] at failed
  cases valid : settings.validate with
  | error problem =>
      rw [valid] at failed
      cases failed
      exact Or.inl ⟨by simp only [Settings.installs?, valid], rfl⟩
  | ok checked =>
      simp only [valid, Dial.ofExcept_run] at failed
      rw [Dial.bind_run] at failed
      cases found : Proxy.resolveWithShape settings.proxy environment with
      | error problem =>
          rw [found] at failed
          cases failed
          exact Or.inl ⟨by simp only [Settings.installs?, valid, found], rfl⟩
      | ok proxy =>
          simp only [found, Dial.ofExcept_run] at failed
          obtain ⟨next, installed⟩ := withSettingsNameserver_run valid found options world
          rw [Dial.bind_run, installed] at failed
          obtain ⟨same, tls, problem, protection, refused, told⟩ := finish_failed found failed
          cases told
          -- Only the step with the nameserver has touched the world.
          cases installs : settings.installs? environment with
          | none =>
              rw [installs] at same
              exact Or.inl ⟨rfl, same⟩
          | some resolver =>
              rw [installs] at same
              exact Or.inr ⟨resolver, tls, rfl, protection, refused, same⟩

/-- Settings with a proxy and a nameserver, and TLS without any authority. -/
def withoutAuthority : Settings :=
  { Settings.empty with
    host := some "10.0.0.5"
    proxy := some "socks5://10.0.0.1:1080"
    nameserver := some "10.0.0.53"
    tls := some .empty }

theorem withoutAuthority_failed : ∃ error behind,
    ofSettings withoutAuthority .empty .isolated = (.error (.failed error), behind) ∧
      behind.installed.isSome = true := by
  have refused : (ofSettings withoutAuthority .empty .isolated).1.isOk = false := by
    decide +kernel
  have caught : ((ofSettings withoutAuthority .empty).attempt .isolated).1.isOk = true := by
    decide +kernel
  have installed : (ofSettings withoutAuthority .empty .isolated).2.installed.isSome = true := by
    decide +kernel
  obtain ⟨error, behind, run⟩ := Dial.run_of_caught refused caught
  rw [run] at installed
  exact ⟨error, behind, run, installed⟩

/-- The resolver stays behind, although there is no cluster that would use it. -/
theorem refused_tls_leaves_resolver_behind : ∃ error behind resolver,
    ofSettings withoutAuthority .empty .isolated = (.error (.failed error), behind) ∧
      withoutAuthority.installs? .empty = some resolver ∧
      behind = { World.isolated with installed := some (.proxied resolver) } := by
  obtain ⟨error, behind, failed, isSome⟩ := withoutAuthority_failed
  rcases failed_setup_leaves_resolver_of_refused_tls failed with
    ⟨-, same⟩ | ⟨resolver, tls, installs, -, -, same⟩
  · rw [same] at isSome
    cases isSome
  · exact ⟨error, behind, resolver, failed, installs, same⟩

/-- A setup that fails does not always leave lookups as they were. -/
theorem refused_tls_redirects_lookups : ∃ error behind,
    ofSettings withoutAuthority .empty .isolated = (.error (.failed error), behind) ∧
      ¬ behind.installed = World.isolated.installed := by
  obtain ⟨error, behind, failed, isSome⟩ := withoutAuthority_failed
  refine ⟨error, behind, failed, ?_⟩
  intro same
  rw [same] at isSome
  cases isSome

end Cluster

end ProxyDial
