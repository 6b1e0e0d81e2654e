import ProxyDial.Cluster.Call
import ProxyDial.Proofs.Dial.Outcome

set_option autoImplicit false

/-! What a call that succeeds makes of a cluster handle. All that is proved about sequences of calls
rests on this one list of cases. -/

namespace ProxyDial.Cluster
open Text

/-- How a call that succeeds changes a handle. -/
inductive Step (cluster : Cluster) (world : World) : Call → Cluster → Prop
  | login (login : Credentials) : Step cluster world (.setLogin login) (cluster.withLogin login)
  | authKeyspace (name : String) :
      Step cluster world (.setAuthKeyspace name) (cluster.withAuthKeyspace name)
  | options (options : DialOptions) :
      Step cluster world (.setOptions options) (cluster.withOptions options)
  | noProxy {explicit : Option String} {environment : Environment}
      (resolved : Proxy.resolveWithShape explicit environment = .ok none) :
      Step cluster world (.setProxy explicit environment) cluster
  | namedProxy {explicit : Option String} {environment : Environment} {proxy : Proxy}
      {shape : DialerShape} {next : Cluster}
      (resolved : Proxy.resolveWithShape explicit environment = .ok (some (proxy, shape)))
      (installed : cluster.withProxy proxy shape = .ok next) :
      Step cluster world (.setProxy explicit environment) next
  | proxy {proxy : Proxy} {shape : DialerShape} {next : Cluster}
      (installed : cluster.withProxy proxy shape = .ok next) :
      Step cluster world (.installProxy proxy shape) next
  | nameserver {nameserver : String} {proxy : Proxy} {resolver : ProxiedResolver}
      (through : cluster.proxy = some proxy)
      (read : ProxiedResolver.ofText
        ((ProxyDialer.ofProxy proxy).withOptions cluster.config.options) nameserver =
          .ok resolver) :
      Step cluster world (.setNameserver nameserver)
        (cluster.withResolver (some (.proxied resolver)))
  | tls {authority : Bytes} {certificate key : Option Bytes} {skip : Bool} {tls : TlsConfig}
      (made : TlsConfig.ofTexts authority certificate key skip = .ok tls) :
      Step cluster world (.setTls authority certificate key skip) (cluster.withTls tls)
  | session {connection : Connection} {opened : World}
      (dialed : cluster.config.openConnection world = (.ok connection, opened)) :
      Step cluster world .createSession { cluster with session := some connection }
  | noSession : Step cluster world .closeSession { cluster with session := none }

/-- What a handle becomes when a dialer through a proxy is installed on it. -/
inductive Installed (cluster : Cluster) (proxy : Proxy) : DialerShape → Cluster → Prop
  | address : Installed cluster proxy .address { cluster with
      config := { cluster.config with
        dialer := some ⟨proxy, cluster.config.options⟩
        hostDialer := none }
      proxy := some proxy }
  | host (isSocks : proxy.scheme = .socks5) : Installed cluster proxy .host { cluster with
      config := { cluster.config with
        dialer := none
        hostDialer := some ⟨⟨proxy, cluster.config.options⟩, cluster.config.tls, isSocks⟩
        tls := none }
      proxy := some proxy }

theorem hostDialer_ok {cluster : Cluster} {proxy : Proxy} {dialer : HostDialer}
    (made : cluster.hostDialer proxy = .ok dialer) : ∃ isSocks,
      dialer = ⟨⟨proxy, cluster.config.options⟩, cluster.config.tls, isSocks⟩ := by
  obtain ⟨bare, found, rest⟩ := Dial.bind_ok made
  unfold HostDialer.ofProxy at found
  split at found
  next isSocks =>
    cases found
    cases tls : cluster.config.tls with
    | none =>
        rw [tls] at rest
        cases rest
        exact ⟨isSocks, rfl⟩
    | some config =>
        rw [tls] at rest
        cases rest
        exact ⟨isSocks, rfl⟩
  · cases found

theorem installed_of_withProxy {cluster next : Cluster} {proxy : Proxy} {shape : DialerShape}
    (installed : cluster.withProxy proxy shape = .ok next) :
    Installed cluster proxy shape next := by
  cases shape with
  | address =>
      cases installed
      exact .address
  | host =>
      obtain ⟨dialer, made, same⟩ := Dial.bind_ok installed
      obtain ⟨isSocks, parts⟩ := hostDialer_ok made
      subst parts
      cases same
      exact .host isSocks

theorem closeSession_run (cluster : Cluster) (world : World) :
    ∃ behind, cluster.closeSession world = (.ok { cluster with session := none }, behind) := by
  unfold closeSession
  cases cluster.session with
  | none => exact ⟨world, rfl⟩
  | some session => exact ⟨_, rfl⟩

/-- A new session is the connection that has been opened, whatever session there was before. -/
theorem createSession_ok {cluster next : Cluster} {world behind : World}
    (run : cluster.createSession world = (.ok next, behind)) :
    ∃ connection opened, cluster.config.openConnection world = (.ok connection, opened) ∧
      next = { cluster with session := some connection } := by
  obtain ⟨connection, opened, dialed, rest⟩ := Dial.bind_run_ok run
  obtain ⟨closed, closedRun⟩ := closeSession_run cluster opened
  rw [Dial.bind_run, closedRun] at rest
  cases rest
  exact ⟨connection, opened, dialed, rfl⟩

private theorem withNamedProxy_ok {cluster next : Cluster} {explicit : Option String}
    {environment : Environment} {told : Option Proxy}
    (run : cluster.withNamedProxy explicit environment = .ok (next, told)) :
    (Proxy.resolveWithShape explicit environment = .ok none ∧ next = cluster) ∨
      ∃ proxy shape, Proxy.resolveWithShape explicit environment = .ok (some (proxy, shape)) ∧
        cluster.withProxy proxy shape = .ok next := by
  unfold withNamedProxy at run
  cases resolved : Proxy.resolveWithShape explicit environment with
  | error error =>
      rw [resolved] at run
      cases run
  | ok found =>
      rw [resolved] at run
      cases found with
      | none =>
          cases run
          exact Or.inl ⟨rfl, rfl⟩
      | some named =>
          obtain ⟨proxy, shape⟩ := named
          refine Or.inr ⟨proxy, shape, rfl, ?_⟩
          cases installed : cluster.withProxy proxy shape with
          | error error =>
              simp only [bind, Except.bind, installed] at run
              cases run
          | ok made =>
              simp only [bind, Except.bind, installed] at run
              cases run
              rfl

/-- What comes of a nameserver, once there is a proxy to ask it through. -/
theorem withNameserver_run {cluster : Cluster} {proxy : Proxy}
    (through : cluster.proxy = some proxy)
    (nameserver : String) (world : World) : cluster.withNameserver nameserver world =
      match ProxiedResolver.ofText
          ((ProxyDialer.ofProxy proxy).withOptions cluster.config.options) nameserver with
      | .ok resolver =>
          (.ok (cluster.withResolver (some (.proxied resolver)), resolver),
            { world with installed := some (.proxied resolver) })
      | .error error => (.error (.failed error), world) := by
  unfold withNameserver
  rw [through]
  simp only [installNameserver, Dial.bind_run]
  cases ProxiedResolver.ofText
      ((ProxyDialer.ofProxy proxy).withOptions cluster.config.options) nameserver with
  | error error => rfl
  | ok resolver => rfl

theorem withNameserver_noProxy {cluster : Cluster} (none : cluster.proxy = none)
    (nameserver : String) (world : World) : cluster.withNameserver nameserver world =
      (.error (.failed (.config .resolverWithoutProxy)), world) := by
  unfold withNameserver
  rw [none]
  rfl

private theorem withNameserver_ok {cluster next : Cluster} {nameserver : String}
    {told : ProxiedResolver} {world behind : World}
    (run : cluster.withNameserver nameserver world = (.ok (next, told), behind)) :
    ∃ proxy, cluster.proxy = some proxy ∧
      ProxiedResolver.ofText ((ProxyDialer.ofProxy proxy).withOptions cluster.config.options)
        nameserver = .ok told ∧
      next = cluster.withResolver (some (.proxied told)) := by
  cases through : cluster.proxy with
  | none =>
      rw [withNameserver_noProxy through] at run
      cases run
  | some proxy =>
      rw [withNameserver_run through] at run
      refine ⟨proxy, rfl, ?_⟩
      split at run
      · rename_i resolver read
        cases run
        exact ⟨read, rfl⟩
      · cases run

/-- A call that succeeds is one of the steps. -/
theorem step_of_perform {cluster next : Cluster} {call : Call} {world behind : World}
    (run : cluster.perform call world = (.ok next, behind)) : Step cluster world call next := by
  cases call with
  | setLogin login =>
      cases run
      exact .login login
  | setAuthKeyspace name =>
      cases run
      exact .authKeyspace name
  | setOptions options =>
      cases run
      exact .options options
  | setProxy explicit environment =>
      obtain ⟨mapped, -⟩ := Dial.ofExcept_run_ok run
      cases named : cluster.withNamedProxy explicit environment with
      | error error =>
          rw [named] at mapped
          cases mapped
      | ok found =>
          rw [named] at mapped
          cases mapped
          obtain ⟨made, told⟩ := found
          rcases withNamedProxy_ok named with ⟨resolved, same⟩ | ⟨proxy, shape, resolved, installed⟩
          · subst same
            exact .noProxy resolved
          · exact .namedProxy resolved installed
  | installProxy proxy shape => exact .proxy (Dial.ofExcept_run_ok run).1
  | setNameserver nameserver =>
      obtain ⟨⟨made, resolver⟩, middle, outcome, rest⟩ := Dial.bind_run_ok run
      obtain ⟨proxy, through, read, same⟩ := withNameserver_ok outcome
      cases rest
      subst same
      exact .nameserver through read
  | setTls authority certificate key skip =>
      obtain ⟨mapped, -⟩ := Dial.ofExcept_run_ok run
      cases made : TlsConfig.ofTexts authority certificate key skip with
      | error error =>
          rw [made] at mapped
          cases mapped
      | ok tls =>
          rw [made] at mapped
          cases mapped
          exact .tls made
  | createSession =>
      obtain ⟨connection, opened, dialed, same⟩ := createSession_ok run
      subst same
      exact .session dialed
  | closeSession =>
      obtain ⟨closed, closedRun⟩ := closeSession_run cluster world
      have same : (Except.ok next, behind) = (.ok { cluster with session := none }, closed) :=
        run.symm.trans closedRun
      cases same
      exact .noSession

end ProxyDial.Cluster
