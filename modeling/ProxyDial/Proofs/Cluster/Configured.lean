import ProxyDial.Proofs.Cluster.InPlace
import ProxyDial.Proofs.Cluster.Protection
import ProxyDial.Proofs.Cluster.Setup
import ProxyDial.Proofs.Dial.Sockets

set_option autoImplicit false

/-! What settings make of a cluster. The proxy that they come to decides how the cluster dials, TLS
goes where the dial looks for it, and names are looked up through the proxy where a nameserver is
set as well. None of this is changed by opening and closing sessions. -/

namespace ProxyDial
open Text

/-- The contact points are the entries of the list that are not blank, trimmed. -/
theorem Settings.hosts_eq (settings : Settings) :
    settings.hosts =
      (((settings.host.getD "").toList.splitOn ',').filter (·.any (!isBlank ·))).map
        fun entry => String.ofList (trimmed entry) := by
  have same (entry : List Char) :
      decide (String.ofList (trimmed entry) ≠ "") = entry.any (!isBlank ·) := by
    rw [Bool.eq_iff_iff]
    simp [trimmed_eq_nil_iff]
  unfold hosts
  rw [List.filter_map]
  congr 1
  exact List.filter_congr fun entry _ => same entry

/-- TLS is where connections are dialed, and nowhere else. -/
def ClusterConfig.ProtectsWith (config : ClusterConfig) (tls : Option TlsConfig) : Prop :=
  match config.hostDialer with
  | some dialer => dialer.tls = tls ∧ config.tls = none
  | none => config.tls = tls

theorem ClusterConfig.ProtectsWith.protection {config : ClusterConfig} {tls : Option TlsConfig}
    (protects : config.ProtectsWith tls) : config.protection = tls := by
  unfold ProtectsWith at protects
  unfold ClusterConfig.protection
  cases held : config.hostDialer with
  | none =>
      rw [held] at protects
      exact protects
  | some dialer =>
      rw [held] at protects
      exact protects.1

/-- A configuration with these contact points and this resolver, which dials through the proxy that
is named, if there is one, and protects connections with the TLS configuration, if there is one. -/
structure ClusterConfig.Serving (hosts : List String) (resolver : Option Resolver)
    (named : Option (Proxy × DialerShape)) (tls : Option TlsConfig) (config : ClusterConfig) :
    Prop where
  hosts : config.hosts = hosts
  resolver : config.resolver = resolver
  hostDialer : config.hostDialer.isSome ↔ named.map (·.1.scheme) = some .socks5
  dialer : config.dialer.isSome ↔ named.map (·.1.scheme) = some .http
  throughHost : ∀ dialer, config.hostDialer = some dialer →
    named.map (·.1) = some dialer.dialer.proxy
  through : ∀ dialer, config.dialer = some dialer → named.map (·.1) = some dialer.proxy
  protects : config.ProtectsWith tls

namespace Cluster

variable {cluster next : Cluster} {hosts : List String} {resolver : Option Resolver}
  {named : Option (Proxy × DialerShape)}

/-- What the step with the nameserver makes of a cluster without a resolver. -/
theorem withSettingsNameserver_makes {nameserver : Option String} {before world : World}
    (none : cluster.config.resolver = none)
    (run : cluster.withSettingsNameserver named nameserver before = (.ok next, world)) :
    next = cluster.withResolver next.config.resolver ∧
      next.config.resolver.isSome = (named.isSome && nameserver.isSome) ∧
      world.installed = next.config.resolver.or before.installed := by
  unfold withSettingsNameserver at run
  split at run
  · obtain ⟨made, middle, installed, rest⟩ := Dial.bind_run_ok run
    obtain ⟨read, middle, outcome, rest'⟩ := Dial.bind_run_ok installed
    cases rest
    cases rest'
    obtain ⟨-, same⟩ := Dial.ofExcept_run_ok outcome
    subst same
    exact ⟨rfl, rfl, rfl⟩
  · rename_i missing
    cases run
    rw [none]
    refine ⟨?_, ?_, rfl⟩
    · unfold withResolver
      rw [← none]
    · cases named with
      | none => rfl
      | some pair =>
          cases nameserver with
          | none => rfl
          | some address => exact absurd rfl (missing pair.1 pair.2 address rfl)

theorem withSettingsProxy_makes {explicit : Option String} {environment : Environment}
    (found : Proxy.resolveWithShape explicit environment = .ok named)
    (dialer : cluster.config.dialer = none) (hostDialer : cluster.config.hostDialer = none)
    (tls : cluster.config.tls = none) (made : cluster.withSettingsProxy named = .ok next) :
    next.config.Serving cluster.config.hosts cluster.config.resolver named none := by
  cases named with
  | none =>
      cases made
      refine ⟨rfl, rfl, by simp [hostDialer], by simp [dialer], ?_, ?_, ?_⟩
      · intro other held
        rw [hostDialer] at held
        cases held
      · intro other held
        rw [dialer] at held
        cases held
      · unfold ClusterConfig.ProtectsWith
        rw [hostDialer]
        exact tls
  | some pair =>
      obtain ⟨proxy, shape⟩ := pair
      have scheme := Proxy.resolveWithShape_scheme found
      cases installed_of_withProxy made with
      | address =>
          change proxy.scheme = .http at scheme
          refine ⟨rfl, rfl, by simp [scheme], by simp [scheme], ?_, ?_, tls⟩
          · intro other impossible
            cases impossible
          · rintro other ⟨⟩
            rfl
      | host isSocks =>
          refine ⟨rfl, rfl, by simp [isSocks], by simp [isSocks], ?_, ?_, ⟨tls, rfl⟩⟩
          · rintro other ⟨⟩
            rfl
          · intro other impossible
            cases impossible

/-- TLS goes to the host dialer where there is one, and stays with the cluster otherwise. -/
theorem serving_withTls (serving : cluster.config.Serving hosts resolver named none)
    (tls : TlsConfig) :
    (cluster.withTls tls).config.Serving hosts resolver named (some tls) := by
  obtain ⟨sameHosts, sameResolver, host, dialer, throughHost, through, protects⟩ := serving
  unfold ClusterConfig.ProtectsWith at protects
  unfold withTls
  cases held : cluster.config.hostDialer with
  | none =>
      refine ⟨sameHosts, sameResolver, host, dialer, throughHost, through, ?_⟩
      unfold ClusterConfig.ProtectsWith
      dsimp only
      rw [held]
  | some installed =>
      rw [held] at protects host
      refine ⟨sameHosts, sameResolver, host, dialer, ?_, through, rfl, protects.2⟩
      rintro other ⟨⟩
      exact throughHost installed held

theorem withSettingsTls_makes {settings : Option TlsSettings}
    (serving : cluster.config.Serving hosts resolver named none)
    (made : cluster.withSettingsTls settings = .ok next) :
    ∃ tls, settings.mapM tlsOfSettings = .ok tls ∧
      next.config.Serving hosts resolver named tls := by
  cases settings with
  | none =>
      cases made
      exact ⟨none, rfl, serving⟩
  | some texts =>
      obtain ⟨tls, read, same⟩ := Dial.bind_ok made
      cases same
      refine ⟨some tls, ?_, serving_withTls serving tls⟩
      change (do return some (← tlsOfSettings texts)) = Except.ok (some tls)
      rw [read]
      rfl

theorem mapM_isSome {settings : Option TlsSettings} {tls : Option TlsConfig}
    (made : settings.mapM tlsOfSettings = .ok tls) : tls.isSome = settings.isSome := by
  cases settings with
  | none =>
      cases made
      rfl
  | some texts =>
      obtain ⟨config, -, same⟩ := Dial.bind_ok made
      cases same
      rfl

/-- What settings make of a cluster and of the resolver for all. -/
theorem ofSettings_serving {settings : Settings} {environment : Environment} {before world : World}
    (made : ofSettings settings environment before = (.ok cluster, world)) :
    ∃ named tls resolver, Proxy.resolveWithShape settings.proxy environment = .ok named ∧
      settings.tls.mapM tlsOfSettings = .ok tls ∧
      resolver.isSome = (named.isSome && settings.nameserver?.isSome) ∧
      world.installed = resolver.or before.installed ∧
      cluster.config.Serving settings.hosts resolver named tls := by
  unfold ofSettings at made
  obtain ⟨_, start, checked, resolving⟩ := Dial.bind_run_ok made
  obtain ⟨-, rfl⟩ := Dial.ofExcept_run_ok checked
  obtain ⟨named, start, resolved, asking⟩ := Dial.bind_run_ok resolving
  obtain ⟨found, rfl⟩ := Dial.ofExcept_run_ok resolved
  obtain ⟨asks, told, nameserver, proxying⟩ := Dial.bind_run_ok asking
  obtain ⟨same, hasResolver, installed⟩ := withSettingsNameserver_makes rfl nameserver
  obtain ⟨dials, _, proxied, guarding⟩ := Dial.bind_run_ok proxying
  obtain ⟨dialing, rfl⟩ := Dial.ofExcept_run_ok proxied
  obtain ⟨guards, _, guarded, finishing⟩ := Dial.bind_run_ok guarding
  obtain ⟨protecting, rfl⟩ := Dial.ofExcept_run_ok guarded
  -- The cluster that the dialer is installed on has nothing yet but a resolver.
  rw [same] at dialing
  have serving := withSettingsProxy_makes found rfl rfl rfl dialing
  obtain ⟨tls, read, serving⟩ := withSettingsTls_makes serving protecting
  refine ⟨named, tls, asks.config.resolver, found, read, hasResolver, ?_⟩
  cases login : settings.login with
  | none =>
      rw [login] at finishing
      cases finishing
      exact ⟨installed, serving⟩
  | some credentials =>
      rw [login] at finishing
      cases finishing
      exact ⟨installed, serving.hosts, serving.resolver, serving.hostDialer, serving.dialer,
        serving.throughHost, serving.through, serving.protects⟩

theorem closeSession_keeps_tls {closed : Cluster} {world behind : World} {id : Nat} {link : Link}
    (run : cluster.closeSession world = (.ok closed, behind))
    (there : world.links[id]? = some link) :
    ∃ after, behind.links[id]? = some after ∧ after.tls = link.tls := by
  unfold closeSession at run
  cases held : cluster.session with
  | none =>
      rw [held] at run
      cases run
      exact ⟨link, there, rfl⟩
  | some session =>
      rw [held] at run
      cases run
      -- The connection may be the one that is closed; it keeps its protection then, too.
      refine ⟨if session.socket.id = id then { link with isOpen := false } else link, ?_, ?_⟩
      · change (world.links.modify session.socket.id ({ · with isOpen := false }))[id]? = _
        rw [List.getElem?_modify, there]
        rfl
      · split <;> rfl

/-- A session is protected exactly where the configuration says so, and so is its connection in the
world. -/
theorem createSession_protects {world behind : World}
    (run : cluster.createSession world = (.ok next, behind)) :
    ∃ session link, next.session = some session ∧
      session.isTls = cluster.config.protection.isSome ∧
      behind.links[session.socket.id]? = some link ∧
      link.tls.isSome = cluster.config.protection.isSome := by
  obtain ⟨connection, opened, dialed, rest⟩ := Dial.bind_run_ok run
  obtain ⟨closed, behind, closes, done⟩ := Dial.bind_run_ok rest
  cases done
  have isTls := (cluster.config.openConnection_gives world).of_run dialed connection rfl
  have handed := (cluster.config.openConnection_accounts world).of_run dialed
  obtain ⟨older, link, newest, -, -, linkTls⟩ := handed.newest
  obtain ⟨after, there, same⟩ := closeSession_keeps_tls closes newest.here
  refine ⟨connection, after, rfl, isTls, there, ?_⟩
  rw [same, linkTls, isTls]

theorem Step.protection_eq {world : World} {call : Call} (step : Step cluster world call next)
    (quiet : call.setsTls = false) (keeps : call.installs? = none) :
    next.config.protection = cluster.config.protection := by
  cases step.tlsEffect with
  | set same made becomes =>
      subst same
      cases quiet
  | install installs =>
      rw [keeps] at installs
      cases installs
  | keep installs quiet dialer tls =>
      unfold ClusterConfig.protection
      rw [dialer, tls]

end Cluster

theorem Held.call_protection {held : Held} {call : Call} (quiet : call.setsTls = false)
    (keeps : call.installs? = none) :
    (held.call call).cluster.config.protection = held.cluster.config.protection := by
  rcases held.call_step call with step | same
  · exact step.protection_eq quiet keeps
  · rw [same]

theorem Held.calls_protection (held : Held) {calls : List Call}
    (quiet : ∀ call ∈ calls, call.setsTls = false ∧ call.installs? = none) :
    (held.calls calls).cluster.config.protection = held.cluster.config.protection := by
  induction calls generalizing held with
  | nil => rfl
  | cons call rest ih =>
      obtain ⟨quietCall, keeps⟩ := quiet call (List.mem_cons_self ..)
      have later := ih (held.call call)
        fun other member => quiet other (List.mem_cons_of_mem call member)
      exact later.trans (call_protection quietCall keeps)

/-- Settings reach the wire. The cluster dials through the proxy that they come to, with a host
dialer for SOCKS and an address dialer for HTTP, and directly where there is no proxy. TLS is where
it dials, so that each later session is protected exactly if the settings have TLS. A resolver is
set, for the cluster and for all, exactly if there are a proxy and a nameserver. The contact points
are the entries that are not blank, in their order. -/
theorem Cluster.settings_reach_wire {settings : Settings} {environment : Environment}
    {before world : World} {cluster : Cluster}
    (made : ofSettings settings environment before = (.ok cluster, world)) :
    ∃ named tls, Proxy.resolveWithShape settings.proxy environment = .ok named ∧
      (named = none ↔ Proxy.setting? settings.proxy environment = none) ∧
      (cluster.config.hostDialer.isSome ↔ named.map (·.1.scheme) = some .socks5) ∧
      (cluster.config.dialer.isSome ↔ named.map (·.1.scheme) = some .http) ∧
      (∀ dialer, cluster.config.hostDialer = some dialer →
        named.map (·.1) = some dialer.dialer.proxy) ∧
      (∀ dialer, cluster.config.dialer = some dialer → named.map (·.1) = some dialer.proxy) ∧
      settings.tls.mapM tlsOfSettings = .ok tls ∧
      cluster.config.ProtectsWith tls ∧
      (∀ calls, (∀ call ∈ calls, call.setsTls = false ∧ call.installs? = none) →
        ∀ start now next behind,
          (Held.calls ⟨cluster, start⟩ calls).cluster.createSession now = (.ok next, behind) →
          ∃ session link, next.session = some session ∧
            session.isTls = settings.tls.isSome ∧
            behind.links[session.socket.id]? = some link ∧
            link.tls.isSome = settings.tls.isSome) ∧
      (cluster.config.resolver.isSome ↔ named.isSome ∧
        ∃ text, settings.nameserver = some text ∧ ∃ c ∈ text.toList, isBlank c = false) ∧
      world.installed = cluster.config.resolver.or before.installed ∧
      cluster.config.hosts =
        (((settings.host.getD "").toList.splitOn ',').filter (·.any (!isBlank ·))).map
          fun entry => String.ofList (trimmed entry) := by
  obtain ⟨named, tls, resolver, found, read, hasResolver, installed, serving⟩ :=
    ofSettings_serving made
  refine ⟨named, tls, found, Proxy.resolveWithShape_none_iff found, serving.hostDialer,
    serving.dialer, serving.throughHost, serving.through, read, serving.protects, ?_, ?_, ?_, ?_⟩
  · intro calls quiet start now next behind run
    obtain ⟨session, link, opened, isTls, there, linkTls⟩ := createSession_protects run
    have same := Held.calls_protection ⟨cluster, start⟩ quiet
    rw [same, serving.protects.protection, mapM_isSome read] at isTls linkTls
    exact ⟨session, link, opened, isTls, there, linkTls⟩
  · rw [serving.resolver, hasResolver, Bool.and_eq_true]
    exact and_congr_right fun _ => nonBlank?_isSome_iff
  · rw [serving.resolver]
    exact installed
  · rw [serving.hosts]
    exact settings.hosts_eq

/-- Settings with everything, and with blank entries among the contact points. -/
def fullSettings : Settings :=
  { Settings.empty with
    host := some " 10.0.0.5 ,, 10.0.0.6, "
    proxy := some "socks5://10.0.0.1:1080"
    nameserver := some "10.0.0.53"
    tls := some { TlsSettings.empty with
      authority := "-----BEGIN CERTIFICATE-----\nMBQwDQIBATAAMAAwADAAMAAwAAMBAA==\n" ++
        "-----END CERTIFICATE-----\n" } }

theorem Cluster.fullSettings_reach_wire : ∃ cluster world,
    ofSettings fullSettings .empty .isolated = (.ok cluster, world) ∧
      cluster.config.hosts = ["10.0.0.5", "10.0.0.6"] ∧
      cluster.config.hostDialer.isSome = true ∧
      cluster.config.protection.isSome = true ∧
      world.installed.isSome = true := by
  have accepted : (ofSettings fullSettings .empty .isolated).1.isOk = true := by decide +kernel
  have scheme : (Proxy.resolveWithShape fullSettings.proxy .empty).toOption.map
      (·.map (·.1.scheme)) = some (some .socks5) := by
    decide +kernel
  obtain ⟨cluster, world, made⟩ := Dial.run_of_isOk accepted
  obtain ⟨named, tls, found, -, host, -, -, -, read, protects, -, resolver, installed, hosts⟩ :=
    settings_reach_wire made
  rw [found] at scheme
  have isSocks : named.map (·.1.scheme) = some .socks5 := by simpa [Except.toOption] using scheme
  have isNamed : named.isSome = true := by
    cases named with
    | none => cases isSocks
    | some pair => rfl
  have hasResolver := resolver.mpr ⟨isNamed, "10.0.0.53", rfl, '1', by decide, by decide⟩
  refine ⟨cluster, world, made, hosts.trans (by decide +kernel), host.mpr isSocks, ?_, ?_⟩
  · rw [protects.protection, mapM_isSome read]
    rfl
  · rw [installed, Option.isSome_or, hasResolver]
    rfl

end ProxyDial
