import ProxyDial.Proofs.Cluster.InPlace
import ProxyDial.Proofs.Dial.Grows

set_option autoImplicit false

/-! The states that a handle comes to. Calls are made on it, and others do what they do in the
world. In each of these states the session leads to a connection that has been made. -/

namespace ProxyDial
open Text

/-- A handle from when it is made on. Each call may succeed or fail. Meanwhile anything may happen
in the world, as long as it keeps the connections in their places. -/
inductive Held.Reachable (hosts : List String) : Held → Prop
  | start (world : World) : Reachable hosts (.start hosts world)
  | call {held : Held} (reachable : Reachable hosts held) (call : Call) :
      Reachable hosts (held.call call)
  | meanwhile {held : Held} (reachable : Reachable hosts held) {world : World}
      (kept : held.world.links.length ≤ world.links.length) : Reachable hosts ⟨held.cluster, world⟩

theorem Held.Reachable.calls {hosts : List String} {held : Held} (reachable : held.Reachable hosts)
    (calls : List Call) : (held.calls calls).Reachable hosts := by
  induction calls generalizing held with
  | nil => exact reachable
  | cons call rest ih => exact ih (reachable.call call)

namespace Cluster

variable {cluster next : Cluster} {world behind : World}

theorem closeSession_places (cluster : Cluster) (world : World) :
    ∃ behind, cluster.closeSession world = (.ok { cluster with session := none }, behind) ∧
      behind.links.length = world.links.length := by
  unfold closeSession
  cases cluster.session with
  | none => exact ⟨world, rfl, rfl⟩
  | some session =>
      exact ⟨_, rfl, List.length_modify _ world.links session.socket.id⟩

/-- The session of a handle, if it has one, leads to one of the connections in the world. -/
def SessionWithin (cluster : Cluster) (world : World) : Prop :=
  ∀ session, cluster.session = some session → session.socket.id < world.links.length

theorem createSession_places (cluster : Cluster) (world : World) :
    cluster.createSession.Ensures world fun result behind =>
      world.links.length ≤ behind.links.length ∧
        ∀ next, result = .ok next → next.SessionWithin behind := by
  apply Dial.ensures_bind
  cases dialed : cluster.config.openConnection world with
  | mk result opened =>
      have grown := (cluster.config.openConnection_grows world).of_run dialed
      have found := (cluster.config.openConnection_accounts world).of_run dialed
      apply Dial.ensures_of_eq dialed
      cases result with
      | error abort =>
          refine ⟨grown.length_le, ?_⟩
          intro next impossible
          cases impossible
      | ok connection =>
          obtain ⟨older, link, newest, -⟩ := found.newest
          -- What is closed now is the session from before, if there is one.
          obtain ⟨behind, closed, same⟩ := cluster.closeSession_places opened
          apply Dial.ensures_bind_of_eq closed
          refine Dial.ensures_pure ⟨same.symm ▸ grown.length_le, ?_⟩
          rintro next ⟨⟩ session ⟨⟩
          rw [same]
          exact newest.within

theorem Installed.session {proxy : Proxy} {shape : DialerShape}
    (installed : Installed cluster proxy shape next) : next.session = cluster.session := by
  cases installed <;> rfl

/-- Only the calls for sessions change what the handle has as its session. -/
theorem Step.session_eq {call : Call} (step : Step cluster world call next)
    (opens : call ≠ .createSession) (closes : call ≠ .closeSession) :
    next.session = cluster.session := by
  cases step with
  | login login => rfl
  | authKeyspace name => rfl
  | options options => rfl
  | noProxy resolved => rfl
  | namedProxy resolved installed => exact (installed_of_withProxy installed).session
  | proxy installed => exact (installed_of_withProxy installed).session
  | nameserver through read => rfl
  | tls made => rfl
  | session dialed => exact absurd rfl opens
  | noSession => exact absurd rfl closes

theorem installNameserver_still (proxy : Proxy) (nameserver : String) (options : DialOptions) :
    (installNameserver proxy nameserver options).Still := by
  apply Dial.still_bind (Dial.still_ofExcept _)
  intro resolver
  have installs : (Resolver.install (.proxied resolver)).Still := Dial.still_modify fun _ => rfl
  exact Dial.still_bind installs fun _ => Dial.still_pure

theorem withNameserver_still (cluster : Cluster) (nameserver : String) :
    (cluster.withNameserver nameserver).Still := by
  unfold withNameserver
  cases cluster.proxy with
  | none => exact Dial.still_fail
  | some proxy =>
      apply Dial.still_bind (installNameserver_still proxy nameserver cluster.config.options)
      intro resolver
      exact Dial.still_pure

/-- Nor do the other calls touch any connection. -/
theorem perform_still (cluster : Cluster) {call : Call} (opens : call ≠ .createSession)
    (closes : call ≠ .closeSession) : (cluster.perform call).Still := by
  cases call with
  | setLogin login => exact Dial.still_pure
  | setAuthKeyspace name => exact Dial.still_pure
  | setOptions options => exact Dial.still_pure
  | setProxy explicit environment => exact Dial.still_ofExcept _
  | installProxy proxy shape => exact Dial.still_ofExcept _
  | setNameserver nameserver =>
      exact Dial.still_bind (cluster.withNameserver_still nameserver) fun _ => Dial.still_pure
  | setTls authority certificate key skip => exact Dial.still_ofExcept _
  | createSession => exact absurd rfl opens
  | closeSession => exact absurd rfl closes

/-- A step leaves the connections in their places, and the session at one of them. -/
theorem perform_places (cluster : Cluster) (call : Call) (world : World)
    (within : cluster.SessionWithin world) :
    (cluster.perform call).Ensures world fun result behind =>
      world.links.length ≤ behind.links.length ∧
        ∀ next, result = .ok next → next.SessionWithin behind := by
  have others (opens : call ≠ .createSession) (closes : call ≠ .closeSession) :
      (cluster.perform call).Ensures world fun result behind =>
        world.links.length ≤ behind.links.length ∧
          ∀ next, result = .ok next → next.SessionWithin behind := by
    cases run : cluster.perform call world with
    | mk result behind =>
        have same := (cluster.perform_still opens closes world).of_run run
        apply Dial.ensures_of_eq run
        refine ⟨by rw [same], ?_⟩
        intro next made session holds
        subst made
        rw [(step_of_perform run).session_eq opens closes] at holds
        rw [same]
        exact within session holds
  cases call with
  | createSession => exact cluster.createSession_places world
  | closeSession =>
      obtain ⟨behind, closed, same⟩ := cluster.closeSession_places world
      refine Dial.ensures_of_eq closed ⟨same.ge, ?_⟩
      rintro next ⟨⟩ session ⟨⟩
  | _ => exact others nofun nofun

end Cluster

/-- The session of a handle is one of the connections in the world. -/
theorem Held.Reachable.session_within {hosts : List String} {held : Held}
    (reachable : held.Reachable hosts) : held.cluster.SessionWithin held.world := by
  induction reachable with
  | start world =>
      intro session impossible
      cases impossible
  | @call held reachable call ih =>
      obtain ⟨longer, within⟩ := held.cluster.perform_places call held.world ih
      unfold Held.call
      rw [InPlace.call_run]
      cases run : held.cluster.perform call held.world with
      | mk result behind =>
          rw [run] at longer within
          cases result with
          | ok next => exact within next rfl
          | error abort =>
              intro session holds
              exact Nat.lt_of_lt_of_le (ih session holds) longer
  | meanwhile reachable kept ih =>
      intro session holds
      exact Nat.lt_of_lt_of_le (ih session holds) kept

end ProxyDial
