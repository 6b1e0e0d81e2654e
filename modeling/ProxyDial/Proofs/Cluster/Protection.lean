import ProxyDial.Proofs.Cluster.Step
import ProxyDial.Proofs.Dial.Protected

set_option autoImplicit false

/-! What becomes of TLS in a sequence of calls. A proxy that is installed takes over what the
cluster protects connections with, but not what a host dialer does that it takes the place of. So
the last configuration stays in use exactly until a host dialer is replaced; from then on
connections are plain, until TLS is set again. -/

namespace ProxyDial
open Text

/-- The last value that a list gives is that of its last entry, if this one gives any. -/
theorem getLast?_filterMap_snoc {α β : Type} (give : α → Option β) (entries : List α) (last : α) :
    ((entries ++ [last]).filterMap give).getLast? =
      (give last).or (entries.filterMap give).getLast? := by
  rw [List.filterMap_append]
  cases given : give last with
  | none => simp [given]
  | some value => simp [given]

namespace Call

/-- The shape of the dialer that a call installs when it succeeds. -/
def installs? : Call → Option DialerShape
  | .setProxy explicit environment =>
      match Proxy.resolveWithShape explicit environment with
      | .ok (some (_, shape)) => some shape
      | _ => none
  | .installProxy _ shape => some shape
  | _ => none

def setsTls : Call → Bool
  | .setTls .. => true
  | _ => false

/-- The shape of the dialer that has been installed last. -/
def lastShape (calls : List Call) : Option DialerShape := (calls.filterMap installs?).getLast?

/-- Whether one of the later calls installs a dialer in the place of a host dialer. -/
def replacesHostDialer (earlier : List Call) : (later : List Call) → Bool
  | [] => false
  | call :: later =>
      (call.installs?.isSome && lastShape earlier = some .host) ||
        replacesHostDialer (earlier ++ [call]) later

theorem lastShape_snoc (calls : List Call) (call : Call) :
    lastShape (calls ++ [call]) = call.installs?.or (lastShape calls) :=
  getLast?_filterMap_snoc installs? calls call

theorem replacesHostDialer_snoc (earlier later : List Call) (call : Call) :
    replacesHostDialer earlier (later ++ [call]) =
      (replacesHostDialer earlier later ||
        (call.installs?.isSome && lastShape (earlier ++ later) = some .host)) := by
  induction later generalizing earlier with
  | nil => simp [replacesHostDialer]
  | cons next rest ih =>
      simp only [List.cons_append, replacesHostDialer]
      rw [ih]
      simp [Bool.or_assoc]

end Call

namespace Cluster

/-- An installed dialer protects connections with what the cluster itself had for them. -/
theorem withProxy_protection {cluster next : Cluster} {proxy : Proxy} {shape : DialerShape}
    (installed : cluster.withProxy proxy shape = .ok next) :
    next.config.protection = cluster.config.tls ∧
      next.config.hostDialer.isSome = decide (shape = .host) ∧
      (next.config.hostDialer.isSome → next.config.tls = none) := by
  cases installed_of_withProxy installed with
  | address => exact ⟨rfl, rfl, fun impossible => nomatch impossible⟩
  | host isSocks => exact ⟨rfl, rfl, fun _ => rfl⟩

theorem withTls_protection (cluster : Cluster) (tls : TlsConfig) :
    (cluster.withTls tls).config.protection = some tls ∧
      (cluster.withTls tls).config.hostDialer.isSome = cluster.config.hostDialer.isSome ∧
      (cluster.config.hostDialer.isSome →
        (cluster.withTls tls).config.tls = cluster.config.tls) := by
  unfold withTls ClusterConfig.protection
  cases held : cluster.config.hostDialer with
  | none => simp [held]
  | some dialer => simp [HostDialer.withTls]

/-- What a step does to TLS: it sets it, installs a dialer, or leaves all of it alone. -/
inductive TlsEffect (cluster next : Cluster) (call : Call) : Prop
  | set {authority : Bytes} {certificate key : Option Bytes} {skip : Bool} {tls : TlsConfig}
      (same : call = .setTls authority certificate key skip)
      (made : TlsConfig.ofTexts authority certificate key skip = .ok tls)
      (becomes : next = cluster.withTls tls)
  | install {proxy : Proxy} {shape : DialerShape} (installs : call.installs? = some shape)
      (quiet : call.setsTls = false) (installed : cluster.withProxy proxy shape = .ok next)
  | keep (installs : call.installs? = none) (quiet : call.setsTls = false)
      (dialer : next.config.hostDialer = cluster.config.hostDialer)
      (tls : next.config.tls = cluster.config.tls)

theorem Step.tlsEffect {cluster next : Cluster} {world : World} {call : Call}
    (step : Step cluster world call next) : TlsEffect cluster next call := by
  cases step with
  | login login => exact .keep rfl rfl rfl rfl
  | authKeyspace name => exact .keep rfl rfl rfl rfl
  | options options => exact .keep rfl rfl rfl rfl
  | noProxy resolved => exact .keep (by simp only [Call.installs?, resolved]) rfl rfl rfl
  | namedProxy resolved installed =>
      exact .install (by simp only [Call.installs?, resolved]) rfl installed
  | proxy installed => exact .install rfl rfl installed
  | nameserver through read => exact .keep rfl rfl rfl rfl
  | tls made => exact .set rfl made rfl
  | session dialed => exact .keep rfl rfl rfl rfl
  | noSession => exact .keep rfl rfl rfl rfl

end Cluster

namespace History

/-- What the calls that have succeeded say about TLS and dialers, and what the handle has. -/
structure Accounted (history : History) : Prop where
  shape : history.cluster.config.hostDialer.isSome =
    decide (Call.lastShape history.done = some .host)
  /-- Only one of the two places holds a configuration. -/
  moved : history.cluster.config.hostDialer.isSome → history.cluster.config.tls = none
  protection : ∀ earlier authority certificate key skip later,
    history.done = earlier ++ .setTls authority certificate key skip :: later →
    (∀ other ∈ later, other.setsTls = false) →
    ∃ tls, TlsConfig.ofTexts authority certificate key skip = .ok tls ∧
      history.cluster.config.protection =
        if Call.replacesHostDialer (earlier ++ [.setTls authority certificate key skip]) later
        then none else some tls

theorem start_accounted (hosts : List String) (world : World) :
    (start hosts world).Accounted where
  shape := rfl
  moved impossible := nomatch impossible
  protection := by
    intro earlier authority certificate key skip later impossible
    cases earlier <;> cases impossible

/-- The last of some calls is the chosen one, or comes later. -/
private theorem snoc_eq_split {calls earlier later : List Call} {last chosen : Call}
    (same : calls ++ [last] = earlier ++ chosen :: later) :
    (calls = earlier ∧ last = chosen ∧ later = []) ∨
      ∃ front, calls = earlier ++ chosen :: front ∧ later = front ++ [last] := by
  rcases List.eq_nil_or_concat later with empty | ⟨front, end', split⟩
  · subst empty
    have parts := List.append_inj' same rfl
    simp only [List.cons.injEq, and_true] at parts
    exact Or.inl ⟨parts.1, parts.2, rfl⟩
  · rw [List.concat_eq_append] at split
    subst split
    have regrouped : calls ++ [last] = (earlier ++ chosen :: front) ++ [end'] := by
      rw [same, List.append_assoc, List.cons_append]
    have parts := List.append_inj' regrouped rfl
    simp only [List.cons.injEq, and_true] at parts
    exact Or.inr ⟨front, parts.1, by rw [parts.2]⟩

theorem protection_eq_tls {config : ClusterConfig} (none : config.hostDialer.isSome = false) :
    config.protection = config.tls := by
  unfold ClusterConfig.protection
  cases found : config.hostDialer with
  | none => rfl
  | some dialer =>
      rw [found] at none
      cases none

/-- After a call that does not set TLS, what protected connections still does, unless a host dialer
has been replaced. -/
private theorem Accounted.protection_snoc {history : History} (accounted : history.Accounted)
    {next : Cluster} {call : Call} (quietCall : call.setsTls = false)
    (becomes : next.config.protection =
      if call.installs?.isSome && Call.lastShape history.done = some .host then none
      else history.cluster.config.protection)
    {earlier later : List Call} {authority : Bytes} {certificate key : Option Bytes} {skip : Bool}
    (split : history.done ++ [call] = earlier ++ .setTls authority certificate key skip :: later)
    (quiet : ∀ other ∈ later, other.setsTls = false) :
    ∃ tls, TlsConfig.ofTexts authority certificate key skip = .ok tls ∧
      next.config.protection =
        if Call.replacesHostDialer (earlier ++ [.setTls authority certificate key skip]) later
        then none else some tls := by
  rcases snoc_eq_split split with ⟨-, chosen, -⟩ | ⟨front, before, behind⟩
  · subst chosen
    cases quietCall
  · subst behind
    obtain ⟨tls, made, held⟩ := accounted.protection earlier authority certificate key skip front
      before fun other member => quiet other (List.mem_append_left _ member)
    have done : earlier ++ [Call.setTls authority certificate key skip] ++ front =
        history.done := by
      rw [before, List.append_assoc, List.singleton_append]
    refine ⟨tls, made, ?_⟩
    rw [becomes, held, Call.replacesHostDialer_snoc, done]
    cases call.installs?.isSome && decide (Call.lastShape history.done = some .host) with
    | true => simp
    | false => simp

private theorem Accounted.snoc {history : History} (accounted : history.Accounted) {next : Cluster}
    {world : World} {call : Call} (effect : Cluster.TlsEffect history.cluster next call) :
    (⟨next, world, history.done ++ [call]⟩ : History).Accounted := by
  cases effect with
  | @set authority certificate key skip tls same made becomes =>
      subst same
      subst becomes
      obtain ⟨protects, sameDialer, sameTls⟩ := history.cluster.withTls_protection tls
      refine ⟨?_, ?_, ?_⟩
      · rw [sameDialer, accounted.shape, Call.lastShape_snoc]
        rfl
      · intro hosted
        rw [sameDialer] at hosted
        rw [sameTls hosted, accounted.moved hosted]
      · intro earlier authority' certificate' key' skip' later split quiet
        rcases snoc_eq_split split with ⟨-, chosen, empty⟩ | ⟨front, -, behind⟩
        · cases chosen
          subst empty
          exact ⟨tls, made, protects⟩
        · have heard := quiet (.setTls authority certificate key skip)
            (by rw [behind]; exact List.mem_append_right front (List.mem_singleton_self _))
          cases heard
  | @install proxy shape installs quietCall installed =>
      obtain ⟨protects, shaped, moved⟩ := Cluster.withProxy_protection installed
      refine ⟨?_, moved, ?_⟩
      · rw [shaped, Call.lastShape_snoc, installs]
        simp
      · intro earlier authority certificate key skip later split quiet
        refine accounted.protection_snoc quietCall ?_ split quiet
        rw [protects, installs, Option.isSome_some, Bool.true_and, ← accounted.shape]
        cases hosted : history.cluster.config.hostDialer.isSome with
        | true =>
            -- The new dialer starts from the place that the host dialer has emptied.
            rw [accounted.moved hosted]
            rfl
        | false =>
            rw [protection_eq_tls hosted]
            rfl
  | keep installs quietCall dialer tls =>
      refine ⟨?_, ?_, ?_⟩
      · rw [dialer, accounted.shape, Call.lastShape_snoc, installs]
        rfl
      · intro hosted
        rw [dialer] at hosted
        rw [tls, accounted.moved hosted]
      · intro earlier authority certificate key skip later split quiet
        refine accounted.protection_snoc quietCall ?_ split quiet
        have same : next.config.protection = history.cluster.config.protection := by
          unfold ClusterConfig.protection
          rw [dialer, tls]
        rw [same, installs]
        rfl

theorem call_accounted {history : History} (accounted : history.Accounted) (call : Call) :
    (history.call call).Accounted := by
  unfold History.call
  split
  · rename_i next behind run
    exact accounted.snoc (Cluster.step_of_perform run).tlsEffect
  · exact ⟨accounted.shape, accounted.moved, accounted.protection⟩

theorem calls_accounted {history : History} (accounted : history.Accounted) (calls : List Call) :
    (history.calls calls).Accounted := by
  induction calls generalizing history with
  | nil => exact accounted
  | cons call rest ih => exact ih (call_accounted accounted call)

/-- The TLS configuration that has been set last is what connections are protected with, exactly
unless a host dialer has been replaced since; then they are plain. -/
theorem tls_protects_until_host_dialer_replaced (hosts : List String) (world : World)
    (calls earlier later : List Call) (authority : Bytes) (certificate key : Option Bytes)
    (skip : Bool)
    (done : ((start hosts world).calls calls).done =
      earlier ++ .setTls authority certificate key skip :: later)
    (last : ∀ other ∈ later, other.setsTls = false) :
    ∃ tls, TlsConfig.ofTexts authority certificate key skip = .ok tls ∧
      ((start hosts world).calls calls).cluster.config.protection =
        (if Call.replacesHostDialer (earlier ++ [.setTls authority certificate key skip]) later
          then none else some tls) ∧
      ∀ now next behind,
        ((start hosts world).calls calls).cluster.createSession now = (.ok next, behind) →
        ∃ session, next.session = some session ∧ session.isTls =
          !Call.replacesHostDialer (earlier ++ [.setTls authority certificate key skip]) later := by
  have accounted := calls_accounted (start_accounted hosts world) calls
  obtain ⟨tls, made, protects⟩ :=
    accounted.protection earlier authority certificate key skip later done last
  refine ⟨tls, made, protects, ?_⟩
  intro now next behind created
  obtain ⟨connection, opened, dialed, same⟩ := Cluster.createSession_ok created
  have isTls : connection.isTls = _ :=
    (ClusterConfig.openConnection_gives _ now).of_run dialed connection rfl
  subst same
  refine ⟨connection, rfl, ?_⟩
  rw [isTls, protects]
  cases Call.replacesHostDialer (earlier ++ [.setTls authority certificate key skip]) later <;> rfl

/-- A text with the smallest certificate that makes an anchor. -/
def smallAuthority : Bytes :=
  utf8 ("-----BEGIN CERTIFICATE-----\nMBQwDQIBATAAMAAwADAAMAAwAAMBAA==\n" ++
    "-----END CERTIFICATE-----\n")

def smallTls : TlsConfig := ⟨[⟨[], [], none⟩], false, none⟩

def setSmallTls : Call := .setTls smallAuthority none none false

def installSocks : Call := .installProxy ⟨.socks5, "10.0.0.1", 1080, none⟩ .host

theorem smallAuthority_made : TlsConfig.ofTexts smallAuthority none none false = .ok smallTls := by
  have made : (TlsConfig.ofTexts smallAuthority none none false).toOption = some smallTls := by
    decide +kernel
  cases found : TlsConfig.ofTexts smallAuthority none none false with
  | error error =>
      rw [found] at made
      cases made
  | ok tls =>
      rw [found] at made
      cases made
      rfl

theorem call_setSmallTls (history : History) : history.call setSmallTls =
    ⟨history.cluster.withTls smallTls, history.world, history.done ++ [setSmallTls]⟩ := by
  unfold History.call setSmallTls Cluster.perform
  simp only [smallAuthority_made]
  rfl

/-- A configuration that is set before the host dialer is installed moves to the dialer. -/
theorem tls_moves_to_host_dialer :
    ((start ["10.0.0.5"] .isolated).calls [setSmallTls, installSocks]).done =
        [] ++ setSmallTls :: [installSocks] ∧
      ((start ["10.0.0.5"] .isolated).calls [setSmallTls, installSocks]).cluster.config.protection =
        some smallTls := by
  have done : ((start ["10.0.0.5"] .isolated).calls [setSmallTls, installSocks]).done =
      [] ++ setSmallTls :: [installSocks] := by
    simp only [History.calls, List.foldl, call_setSmallTls]
    rfl
  have quiet : ∀ other ∈ [installSocks], other.setsTls = false := by
    intro other member
    cases List.mem_singleton.mp member
    rfl
  obtain ⟨tls, made, protects, -⟩ :=
    tls_protects_until_host_dialer_replaced ["10.0.0.5"] .isolated [setSmallTls, installSocks] []
      [installSocks] smallAuthority none none false done quiet
  rw [smallAuthority_made] at made
  cases made
  exact ⟨done, protects⟩

/-- A second host dialer starts without the configuration of the first one. -/
theorem tls_lost_with_second_host_dialer :
    ∃ tls, TlsConfig.ofTexts smallAuthority none none false = .ok tls ∧
      let history := (start ["10.0.0.5"] .isolated).calls [installSocks, setSmallTls, installSocks]
      history.done = [installSocks, setSmallTls, installSocks] ∧
        ¬ history.cluster.config.protection = some tls := by
  refine ⟨smallTls, smallAuthority_made, ?_⟩
  simp only [History.calls, List.foldl, call_setSmallTls]
  exact ⟨rfl, fun impossible => nomatch impossible⟩

end History

end ProxyDial
