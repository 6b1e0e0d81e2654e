import ProxyDial.Proofs.Cluster.Protection
import ProxyDial.Proofs.Cluster.Reachable

set_option autoImplicit false

/-! What fits together in a handle. No call, whether it succeeds or fails, leaves two dialers, a
dialer that goes another way than through the proxy that the handle names, or TLS in a place where
the dial does not look for it. -/

namespace ProxyDial
open Text History

namespace Cluster

structure WellShaped (cluster : Cluster) : Prop where
  single : cluster.config.dialer = none ∨ cluster.config.hostDialer = none
  installed : cluster.config.dialer.isSome ∨ cluster.config.hostDialer.isSome ↔ cluster.proxy.isSome
  dialer : ∀ dialer, cluster.config.dialer = some dialer → cluster.proxy = some dialer.proxy
  hostDialer : ∀ dialer, cluster.config.hostDialer = some dialer →
    cluster.proxy = some dialer.dialer.proxy ∧ dialer.dialer.proxy.scheme = .socks5 ∧
      cluster.config.tls = none
  resolver : cluster.config.resolver.isSome → cluster.proxy.isSome

theorem ofHosts_wellShaped (hosts : List String) : (ofHosts hosts).WellShaped where
  single := Or.inl rfl
  installed := by
    constructor
    · rintro (impossible | impossible) <;> cases impossible
    · intro impossible
      cases impossible
  dialer := by
    intro dialer impossible
    cases impossible
  hostDialer := by
    intro dialer impossible
    cases impossible
  resolver := id

/-- Whatever a handle was before, an installed dialer makes a new shape of it. -/
theorem Installed.wellShaped {cluster next : Cluster} {proxy : Proxy} {shape : DialerShape}
    (installed : Installed cluster proxy shape next) : next.WellShaped := by
  cases installed with
  | address =>
      refine ⟨Or.inr rfl, by simp, ?_, ?_, fun _ => rfl⟩
      · rintro dialer ⟨⟩
        rfl
      · intro dialer impossible
        cases impossible
  | host isSocks =>
      refine ⟨Or.inl rfl, by simp, ?_, ?_, fun _ => rfl⟩
      · intro dialer impossible
        cases impossible
      · rintro dialer ⟨⟩
        exact ⟨rfl, isSocks, rfl⟩

theorem WellShaped.withTls {cluster : Cluster} (shape : cluster.WellShaped) (tls : TlsConfig) :
    (cluster.withTls tls).WellShaped := by
  obtain ⟨single, installed, dialer, hostDialer, resolver⟩ := shape
  unfold Cluster.withTls
  cases held : cluster.config.hostDialer with
  | none =>
      rw [held] at single installed
      refine ⟨Or.inr held, ?_, dialer, ?_, resolver⟩
      · rw [held]
        exact installed
      · intro other impossible
        rw [held] at impossible
        cases impossible
  | some host =>
      obtain ⟨through, isSocks, empty⟩ := hostDialer host held
      rw [held] at single installed
      refine ⟨?_, installed, dialer, ?_, resolver⟩
      · rcases single with none | impossible
        · exact Or.inl none
        · cases impossible
      · rintro other ⟨⟩
        exact ⟨through, isSocks, empty⟩

theorem Step.wellShaped {cluster next : Cluster} {world : World} {call : Call}
    (step : Step cluster world call next) (shape : cluster.WellShaped) : next.WellShaped := by
  cases step with
  | login | authKeyspace | options | session | noSession =>
      exact ⟨shape.single, shape.installed, shape.dialer, shape.hostDialer, shape.resolver⟩
  | noProxy => exact shape
  | namedProxy resolved installed => exact (installed_of_withProxy installed).wellShaped
  | proxy installed => exact (installed_of_withProxy installed).wellShaped
  | nameserver through read =>
      refine ⟨shape.single, shape.installed, shape.dialer, shape.hostDialer, ?_⟩
      intro _
      change cluster.proxy.isSome
      rw [through]
      rfl
  | tls made => exact shape.withTls _

end Cluster

namespace Held

theorem call_wellShaped {held : Held} (shape : held.cluster.WellShaped) (call : Call) :
    (held.call call).cluster.WellShaped := by
  rcases held.call_step call with step | same
  · exact step.wellShaped shape
  · rw [same]
    exact shape

/-- In every state that a handle comes to, it has at most one dialer, and one exactly when it names
a proxy; the dialer goes through that proxy. Where that is a host dialer, the proxy speaks SOCKS,
and TLS is with the dialer alone. There is a resolver of its own only where there is a proxy. -/
theorem reachable_keeps_shape {hosts : List String} {held : Held}
    (reachable : held.Reachable hosts) : held.cluster.WellShaped := by
  induction reachable with
  | start world => exact Cluster.ofHosts_wellShaped hosts
  | call reachable call ih => exact call_wellShaped ih call
  | meanwhile reachable kept ih => exact ih

/-- A handle on which each of the parts has been set. The session could not be opened. -/
def fullySet : Held :=
  (start ["10.0.0.5"] .isolated).calls
    [setSmallTls, installSocks, .setNameserver "10.0.0.53", .setOptions .default, .createSession]

theorem fullySet_keeps_shape : fullySet.Reachable ["10.0.0.5"] ∧
    fullySet.cluster.config.resolver.isSome = true ∧
    (fullySet.cluster.config.hostDialer.map (·.tls.isSome)) = some true ∧
    fullySet.cluster.WellShaped := by
  have reachable : fullySet.Reachable ["10.0.0.5"] := (Reachable.start .isolated).calls _
  exact ⟨reachable, by decide +kernel, by decide +kernel, reachable_keeps_shape reachable⟩

end Held

end ProxyDial
