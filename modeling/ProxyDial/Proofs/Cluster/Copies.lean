import Mathlib.Data.List.DropRight
import ProxyDial.Proofs.Cluster.Protection
import ProxyDial.Proofs.Dial.Installed

set_option autoImplicit false

/-! What the parts of a handle have in common with it. A dialer goes through one proxy for good, and
so does a resolver; both are made with the options of the handle. They agree with the handle until
it gets other options or another proxy, and again when they are installed anew. -/

namespace ProxyDial
open Text

/-- A change that the parts of a handle depend on. -/
inductive PartChange
  | options
  | dialer (proxy : Proxy)
  | resolver

def Call.partChange? : Call → Option PartChange
  | .setOptions _ => some .options
  | .setProxy explicit environment =>
      match Proxy.resolveWithShape explicit environment with
      | .ok (some (proxy, _)) => some (.dialer proxy)
      | _ => none
  | .installProxy proxy _ => some (.dialer proxy)
  | .setNameserver _ => some .resolver
  | _ => none

namespace PartChange

def isOptions : PartChange → Bool
  | .options => true
  | _ => false

def proxy? : PartChange → Option Proxy
  | .dialer proxy => some proxy
  | _ => none

def isDialer (change : PartChange) : Bool := change.proxy?.isSome

def isResolver : PartChange → Bool
  | .resolver => true
  | _ => false

/-- The changes up to the last one of a sort. -/
def upTo (sort : PartChange → Bool) (changes : List PartChange) : List PartChange :=
  changes.rdropWhile (!sort ·)

/-- Whether no change of the first sort has come behind the last one of the second. -/
def noneSince (sort last : PartChange → Bool) (changes : List PartChange) : Bool :=
  (changes.rtakeWhile (!last ·)).all (!sort ·)

def lastProxy (changes : List PartChange) : Option Proxy := (changes.filterMap proxy?).getLast?

theorem upTo_snoc (sort : PartChange → Bool) (changes : List PartChange) (change : PartChange) :
    upTo sort (changes ++ [change]) =
      if sort change then changes ++ [change] else upTo sort changes := by
  unfold upTo
  rw [List.rdropWhile_concat]
  cases sort change <;> simp

theorem noneSince_snoc (sort last : PartChange → Bool) (changes : List PartChange)
    (change : PartChange) : noneSince sort last (changes ++ [change]) =
      (last change || noneSince sort last changes && !sort change) := by
  unfold noneSince
  rw [List.rtakeWhile_concat]
  cases last change <;> simp

theorem lastProxy_snoc (changes : List PartChange) (change : PartChange) :
    lastProxy (changes ++ [change]) = change.proxy?.or (lastProxy changes) :=
  getLast?_filterMap_snoc proxy? changes change

theorem lastProxy_upTo {last : PartChange → Bool} {changes : List PartChange}
    (none : noneSince isDialer last changes = true) :
    lastProxy (upTo last changes) = lastProxy changes := by
  have nothing : (changes.rtakeWhile (!last ·)).filterMap proxy? = [] := by
    rw [List.filterMap_eq_nil_iff]
    intro change member
    have quiet := List.all_eq_true.mp none change member
    simpa [isDialer] using quiet
  calc lastProxy (upTo last changes)
      = ((upTo last changes ++ changes.rtakeWhile (!last ·)).filterMap proxy?).getLast? := by
        rw [List.filterMap_append, nothing, List.append_nil]
        rfl
    _ = lastProxy changes := by
        unfold upTo
        rw [List.rdropWhile_append_rtakeWhile]
        rfl

end PartChange

def ClusterConfig.proxyDialers (config : ClusterConfig) : List ProxyDialer :=
  config.dialer.toList ++ (config.hostDialer.map (·.dialer)).toList

namespace Cluster

/-- The parts of a handle have its proxy and its options. -/
structure Coherent (cluster : Cluster) : Prop where
  dialers : ∀ dialer ∈ cluster.config.proxyDialers, dialer.options = cluster.config.options
  resolverProxy : ∀ resolver, cluster.config.resolver = some (.proxied resolver) →
    cluster.proxy = some resolver.dialer.proxy
  resolverOptions : ∀ resolver, cluster.config.resolver = some (.proxied resolver) →
    resolver.dialer.options = cluster.config.options

/-- What a step does to the parts: it gives the handle other options, installs a dialer or a
resolver, or leaves all of this alone. -/
inductive PartEffect (cluster next : Cluster) (call : Call) : Prop
  | options (changes : call.partChange? = some .options)
      (dialers : next.config.proxyDialers = cluster.config.proxyDialers)
      (resolver : next.config.resolver = cluster.config.resolver)
      (proxy : next.proxy = cluster.proxy)
  | dialer {proxy : Proxy} (changes : call.partChange? = some (.dialer proxy))
      (dialers : next.config.proxyDialers = [⟨proxy, next.config.options⟩])
      (resolver : next.config.resolver = cluster.config.resolver)
      (options : next.config.options = cluster.config.options)
      (installed : next.proxy = some proxy)
  | resolver {resolver : ProxiedResolver} {proxy : Proxy}
      (changes : call.partChange? = some .resolver) (through : cluster.proxy = some proxy)
      (made : resolver.dialer = ⟨proxy, cluster.config.options⟩)
      (becomes : next = cluster.withResolver (some (.proxied resolver)))
  | keep (changes : call.partChange? = none)
      (dialers : next.config.proxyDialers = cluster.config.proxyDialers)
      (resolver : next.config.resolver = cluster.config.resolver)
      (options : next.config.options = cluster.config.options)
      (proxy : next.proxy = cluster.proxy)

theorem ofText_dialer {dialer : ProxyDialer} {nameserver : String} {resolver : ProxiedResolver}
    (read : ProxiedResolver.ofText dialer nameserver = .ok resolver) :
    resolver.dialer = dialer := by
  unfold ProxiedResolver.ofText at read
  split at read
  · cases read
    rfl
  · cases read

theorem withTls_proxyDialers (cluster : Cluster) (tls : TlsConfig) :
    (cluster.withTls tls).config.proxyDialers = cluster.config.proxyDialers := by
  unfold withTls ClusterConfig.proxyDialers
  cases held : cluster.config.hostDialer with
  | none => simp [held]
  | some dialer => simp [HostDialer.withTls]

theorem withTls_others (cluster : Cluster) (tls : TlsConfig) :
    (cluster.withTls tls).config.resolver = cluster.config.resolver ∧
      (cluster.withTls tls).config.options = cluster.config.options := by
  unfold withTls
  cases cluster.config.hostDialer <;> exact ⟨rfl, rfl⟩

theorem Installed.partEffect {cluster next : Cluster} {proxy : Proxy} {shape : DialerShape}
    {call : Call} (installed : Installed cluster proxy shape next)
    (changes : call.partChange? = some (.dialer proxy)) : PartEffect cluster next call := by
  cases installed with
  | address => exact .dialer changes rfl rfl rfl rfl
  | host isSocks => exact .dialer changes rfl rfl rfl rfl

theorem Step.partEffect {cluster next : Cluster} {world : World} {call : Call}
    (step : Step cluster world call next) : PartEffect cluster next call := by
  cases step with
  | login | authKeyspace | session | noSession => exact .keep rfl rfl rfl rfl rfl
  | options options => exact .options rfl rfl rfl rfl
  | noProxy resolved =>
      exact .keep (by simp only [Call.partChange?, resolved]) rfl rfl rfl rfl
  | namedProxy resolved installed =>
      exact (installed_of_withProxy installed).partEffect
        (by simp only [Call.partChange?, resolved])
  | proxy installed => exact (installed_of_withProxy installed).partEffect rfl
  | nameserver through read => exact .resolver rfl through (ofText_dialer read) rfl
  | @tls authority certificate key skip tls made =>
      obtain ⟨resolver, options⟩ := cluster.withTls_others tls
      exact .keep rfl (cluster.withTls_proxyDialers tls) resolver options rfl

theorem withNameserver_installed (cluster : Cluster) (nameserver : String) (world : World) :
    (cluster.withNameserver nameserver).Ensures world fun result behind =>
      behind.installed = match result with
        | .ok found => found.1.config.resolver
        | .error _ => world.installed := by
  cases through : cluster.proxy with
  | none => exact Dial.ensures_of_eq (withNameserver_noProxy through nameserver world) rfl
  | some proxy =>
      unfold Dial.Ensures
      rw [withNameserver_run through]
      split <;> rfl

/-- Of all calls, only the one that sets a nameserver has a part in the resolver for all. -/
theorem perform_installed (cluster : Cluster) (call : Call) (world : World) :
    (cluster.perform call).Ensures world fun result behind =>
      behind.installed = match call, result with
        | .setNameserver _, .ok next => next.config.resolver
        | _, _ => world.installed := by
  cases call with
  | setLogin | setAuthKeyspace | setOptions => exact Dial.ensures_pure rfl
  | setProxy | installProxy | setTls =>
      exact (Dial.keepsResolver_of_lasts (Dial.lasts_ofExcept _)) world
  | setNameserver nameserver =>
      apply Dial.ensures_bind
      refine (cluster.withNameserver_installed nameserver world).mono ?_
      intro result behind same
      cases result with
      | error abort => exact same
      | ok found => exact Dial.ensures_pure same
  | createSession =>
      apply Dial.ensures_bind
      refine (cluster.config.openConnection_keepsResolver world).mono ?_
      intro result opened same
      cases result with
      | error abort => exact same
      | ok connection =>
          apply Dial.ensures_bind
          unfold closeSession
          cases cluster.session with
          | none => exact same
          | some session => exact same
  | closeSession =>
      unfold perform closeSession
      cases cluster.session with
      | none => rfl
      | some session => rfl

end Cluster

namespace History
open PartChange

/-- What the calls that have succeeded have changed. -/
def changes (history : History) : List PartChange := history.done.filterMap Call.partChange?

/-- The parts of a handle, told by the calls that have succeeded on it. -/
structure Follows (before : World) (history : History) : Prop where
  proxy : history.cluster.proxy = lastProxy history.changes
  dialers : noneSince isOptions isDialer history.changes = true →
    ∀ dialer ∈ history.cluster.config.proxyDialers,
      dialer.options = history.cluster.config.options
  installed : history.world.installed = history.cluster.config.resolver.or before.installed
  resolver : ∀ resolver, history.cluster.config.resolver = some resolver →
    ∃ proxied : ProxiedResolver, resolver = .proxied proxied ∧
      lastProxy (upTo isResolver history.changes) = some proxied.dialer.proxy ∧
      (noneSince isOptions isResolver history.changes = true →
        proxied.dialer.options = history.cluster.config.options)

theorem start_follows (hosts : List String) (world : World) :
    (start hosts world).Follows world where
  proxy := rfl
  dialers := by
    intro _ dialer member
    cases member
  installed := rfl
  resolver := by
    intro resolver impossible
    cases impossible

theorem changes_of_some (history : History) (next : Cluster) (world : World) {call : Call}
    {change : PartChange} (changes : call.partChange? = some change) :
    (⟨next, world, history.done ++ [call]⟩ : History).changes = history.changes ++ [change] := by
  simp [History.changes, changes]

theorem changes_of_none (history : History) (next : Cluster) (world : World) {call : Call}
    (changes : call.partChange? = none) :
    (⟨next, world, history.done ++ [call]⟩ : History).changes = history.changes := by
  simp [History.changes, changes]

private theorem Follows.snoc {before : World} {history : History} (follows : history.Follows before)
    {next : Cluster} {world : World} {call : Call}
    (effect : Cluster.PartEffect history.cluster next call)
    (quiet : call.partChange? ≠ some .resolver → world.installed = history.world.installed)
    (names : call.partChange? = some .resolver → world.installed = next.config.resolver) :
    (⟨next, world, history.done ++ [call]⟩ : History).Follows before := by
  cases effect with
  | options changes dialers resolver proxy =>
      have now := changes_of_some history next world changes
      refine ⟨?_, ?_, ?_, ?_⟩
      · rw [now, lastProxy_snoc]
        exact proxy.trans follows.proxy
      · -- Options have come last, so that nothing is said about those of the dialers.
        intro none
        rw [now, noneSince_snoc] at none
        simp [isOptions, isDialer, proxy?] at none
      · rw [quiet (by simp [changes]), follows.installed, resolver]
      · intro found held
        rw [resolver] at held
        obtain ⟨proxied, same, through, -⟩ := follows.resolver found held
        refine ⟨proxied, same, ?_, ?_⟩
        · rw [now, upTo_snoc]
          exact through
        · intro none
          rw [now, noneSince_snoc] at none
          simp [isOptions, isResolver] at none
  | @dialer proxy changes dialers resolver options installed =>
      have now := changes_of_some history next world changes
      refine ⟨?_, ?_, ?_, ?_⟩
      · rw [now, lastProxy_snoc]
        exact installed
      · intro _ dialer member
        rw [dialers] at member
        rw [List.mem_singleton.mp member]
      · rw [quiet (by simp [changes]), follows.installed, resolver]
      · -- The resolver is still the one from before, and so are the changes up to it.
        intro found held
        rw [resolver] at held
        obtain ⟨proxied, same, through, current⟩ := follows.resolver found held
        refine ⟨proxied, same, ?_, ?_⟩
        · rw [now, upTo_snoc]
          exact through
        · intro none
          rw [now, noneSince_snoc] at none
          rw [options]
          exact current (by simpa [isOptions, isResolver] using none)
  | @resolver resolver proxy changes through made becomes =>
      have now := changes_of_some history next world changes
      subst becomes
      refine ⟨?_, ?_, ?_, ?_⟩
      · rw [now, lastProxy_snoc]
        exact follows.proxy
      · intro none
        rw [now, noneSince_snoc] at none
        exact follows.dialers (by simpa [isOptions, isDialer, proxy?] using none)
      · rw [names changes]
        rfl
      · rintro found ⟨⟩
        refine ⟨resolver, rfl, ?_, ?_⟩
        · -- What the handle names as its proxy is the last one that was installed.
          rw [now, upTo_snoc, made]
          exact (lastProxy_snoc _ _).trans (follows.proxy.symm.trans through)
        · intro _
          rw [made]
          rfl
  | keep changes dialers resolver options proxy =>
      have now := changes_of_none history next world changes
      refine ⟨?_, ?_, ?_, ?_⟩
      · rw [now]
        exact proxy.trans follows.proxy
      · rw [now, dialers, options]
        exact follows.dialers
      · rw [quiet (by simp [changes]), follows.installed, resolver]
      · rw [now, resolver, options]
        exact follows.resolver

theorem call_follows {before : World} {history : History} (follows : history.Follows before)
    (call : Call) : (history.call call).Follows before := by
  unfold History.call
  split
  · rename_i next behind run
    have installed := (history.cluster.perform_installed call history.world).of_run run
    apply follows.snoc (Cluster.step_of_perform run).partEffect
    · intro quiet
      cases call with
      | setNameserver nameserver => exact absurd rfl quiet
      | _ => exact installed
    · intro names
      cases call with
      | setNameserver nameserver => exact installed
      | setProxy explicit environment =>
          dsimp only [Call.partChange?] at names
          split at names <;> cases names
      | _ => cases names
  · rename_i abort behind run
    have installed := (history.cluster.perform_installed call history.world).of_run run
    have same : behind.installed = history.world.installed := by
      cases call <;> exact installed
    exact ⟨follows.proxy, follows.dialers, same.trans follows.installed, follows.resolver⟩

theorem calls_follow {before : World} {history : History} (follows : history.Follows before)
    (calls : List Call) : (history.calls calls).Follows before := by
  induction calls generalizing history with
  | nil => exact follows
  | cons call rest ih => exact ih (call_follows follows call)

/-- The dialers and the resolver have the options of the handle, unless it has been given others
since they were installed. The resolver goes through the proxy that was there when it was installed,
and that is the one of the handle, unless a dialer has been installed since. The resolver of the
handle is also the one for all. -/
theorem parts_agree_until_changed (hosts : List String) (world : World) (calls : List Call) :
    let history := (start hosts world).calls calls
    let config := history.cluster.config
    (noneSince isOptions isDialer history.changes = true →
        ∀ dialer ∈ config.proxyDialers, dialer.options = config.options) ∧
      history.world.installed = config.resolver.or world.installed ∧
      ∀ resolver, config.resolver = some resolver →
        ∃ proxied : ProxiedResolver, resolver = .proxied proxied ∧
          lastProxy (upTo isResolver history.changes) = some proxied.dialer.proxy ∧
          (noneSince isDialer isResolver history.changes = true →
            history.cluster.proxy = some proxied.dialer.proxy) ∧
          (noneSince isOptions isResolver history.changes = true →
            proxied.dialer.options = config.options) := by
  intro history config
  have follows : history.Follows world := calls_follow (start_follows hosts world) calls
  refine ⟨follows.dialers, follows.installed, ?_⟩
  intro resolver held
  obtain ⟨proxied, same, through, current⟩ := follows.resolver resolver held
  refine ⟨proxied, same, through, ?_, current⟩
  intro none
  rw [follows.proxy, ← lastProxy_upTo none]
  exact through

def installHttp (host : String) : Call := .installProxy ⟨.http, host, 3128, none⟩ .address

/-- A handle whose proxy is replaced after the nameserver has been set. -/
def replacedProxy : History :=
  (start ["10.0.0.5"] .isolated).calls
    [installHttp "10.0.0.1", .setNameserver "10.0.0.53", installHttp "10.0.0.2"]

/-- A handle whose options are replaced after the proxy has been installed. -/
def replacedOptions : History :=
  (start ["10.0.0.5"] .isolated).calls
    [installHttp "10.0.0.1", .setOptions (DialOptions.default.withTimeout (.ofSeconds 5))]

/-- The resolver stays with the first proxy, and the dialer with the first options. -/
theorem parts_fall_behind :
    ¬ replacedProxy.cluster.Coherent ∧ ¬ replacedOptions.cluster.Coherent := by
  constructor
  · intro coherent
    have held : ∃ resolver, replacedProxy.cluster.config.resolver = some (.proxied resolver) ∧
        resolver.dialer.proxy.host = "10.0.0.1" := ⟨_, rfl, rfl⟩
    obtain ⟨resolver, held, first⟩ := held
    have same := congrArg (Option.map Proxy.host) (coherent.resolverProxy resolver held)
    rw [Option.map_some, first] at same
    exact absurd same (by decide +kernel)
  · intro coherent
    have same := coherent.dialers ⟨⟨.http, "10.0.0.1", 3128, none⟩, .default⟩
      (List.mem_singleton_self _)
    exact absurd same (by decide +kernel)

end History

end ProxyDial
