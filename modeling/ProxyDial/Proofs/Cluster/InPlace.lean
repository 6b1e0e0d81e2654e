import ProxyDial.Cluster.InPlace
import ProxyDial.Proofs.Cluster.Step

set_option autoImplicit false

/-! Calls in place against steps that give a new handle. A call makes of the handle what its step
gives. Whatever can fail in a call comes before the first place that it writes, so that a call that
fails leaves the handle as it was. -/

namespace ProxyDial
open Text

/-- The handle that a step gives takes the place of the one before. Where the step gives none, that
one stays. -/
def Held.replaced (held : Held) : Except Abort Cluster × World → Except Abort Unit × Held
  | (.ok next, world) => (.ok (), ⟨next, world⟩)
  | (.error abort, world) => (.error abort, ⟨held.cluster, world⟩)

theorem Held.replaced_ofExcept (held : Held) (outcome : Except Error Cluster) :
    held.replaced (Dial.ofExcept outcome held.world) = match outcome with
      | .ok next => (.ok (), ⟨next, held.world⟩)
      | .error error => (.error (.failed error), held) := by
  cases outcome <;> rfl

namespace InPlace

variable {α β : Type}

theorem bind_run (first : InPlace α) (next : α → InPlace β) (held : Held) :
    (first >>= next) held = match first held with
      | (.ok value, behind) => next value behind
      | (.error abort, behind) => (.error abort, behind) := by
  simp only [bind, ExceptT.bind, ExceptT.mk, StateT.bind, ExceptT.bindCont]
  cases first held with
  | mk result behind => cases result <;> rfl

theorem bind_ok {first : InPlace α} {next : α → InPlace β} {value : α} {held behind : Held}
    (run : first held = (.ok value, behind)) : (first >>= next) held = next value behind := by
  rw [bind_run, run]

theorem bind_error {first : InPlace α} {next : α → InPlace β} {abort : Abort} {held behind : Held}
    (run : first held = (.error abort, behind)) :
    (first >>= next) held = (.error abort, behind) := by
  rw [bind_run, run]

theorem discard_run (action : InPlace α) (held : Held) :
    (discard action : InPlace Unit) held = match action held with
      | (.ok _, behind) => (.ok (), behind)
      | (.error abort, behind) => (.error abort, behind) := by
  change (action >>= fun _ => pure ()) held = _
  rw [bind_run]
  rfl

/-- To read the handle changes nothing. -/
theorem cluster_bind (next : Cluster → InPlace β) (held : Held) :
    (cluster >>= next) held = next held.cluster held :=
  rfl

theorem config_bind (next : ClusterConfig → InPlace β) (held : Held) :
    (config >>= next) held = next held.cluster.config held :=
  rfl

/-- Nor does what is only computed. -/
theorem ofExcept_bind (value : α) (next : α → InPlace β) (held : Held) :
    (ofExcept (.ok value) >>= next) held = next value held :=
  rfl

theorem installProxy_run (proxy : Proxy) (shape : DialerShape) (held : Held) :
    installProxy proxy shape held = match held.cluster.withProxy proxy shape with
      | .ok next => (.ok (), ⟨next, held.world⟩)
      | .error error => (.error (.failed error), held) := by
  cases shape with
  | address => rfl
  | host =>
      unfold installProxy Cluster.withProxy Cluster.hostDialer
      cases HostDialer.ofProxy proxy with
      | error error => rfl
      | ok dialer =>
          obtain ⟨⟨⟨_, _, _, tls, _, _, _, _⟩, _, _, _⟩, _⟩ := held
          cases tls <;> rfl

theorem setProxy_run (explicit : Option String) (environment : Environment) (held : Held) :
    setProxy explicit environment held =
      match held.cluster.withNamedProxy explicit environment with
      | .ok (next, told) => (.ok told, ⟨next, held.world⟩)
      | .error error => (.error (.failed error), held) := by
  unfold setProxy Cluster.withNamedProxy
  cases Proxy.resolveWithShape explicit environment with
  | error error => rfl
  | ok found =>
      cases found with
      | none => rfl
      | some named =>
          obtain ⟨proxy, shape⟩ := named
          have run := installProxy_run proxy shape held
          rw [ofExcept_bind]
          change _ = match (do return (← held.cluster.withProxy proxy shape, some proxy)) with
            | .ok (next, told) => _
            | .error error => _
          cases installed : held.cluster.withProxy proxy shape with
          | error error =>
              rw [installed] at run
              exact bind_error run
          | ok next =>
              rw [installed] at run
              refine (bind_ok run).trans ?_
              -- The proxy that is told is read back from the handle.
              cases Cluster.installed_of_withProxy installed <;> rfl

theorem setNameserver_run (nameserver : String) (held : Held) :
    setNameserver nameserver held = match held.cluster.withNameserver nameserver held.world with
      | (.ok (next, told), world) => (.ok told, ⟨next, world⟩)
      | (.error abort, world) => (.error abort, ⟨held.cluster, world⟩) := by
  unfold setNameserver Cluster.withNameserver
  rw [cluster_bind]
  cases held.cluster.proxy with
  | none => rfl
  | some proxy =>
      dsimp only
      rw [config_bind, bind_run, Dial.bind_run]
      unfold InPlace.dial
      cases Cluster.installNameserver proxy nameserver held.cluster.config.options held.world with
      | mk result world => cases result <;> rfl

theorem setTls_run (authority : Bytes) (certificate key : Option Bytes) (skip : Bool)
    (held : Held) : setTls authority certificate key skip held =
      match TlsConfig.ofTexts authority certificate key skip with
      | .ok tls => (.ok (), ⟨held.cluster.withTls tls, held.world⟩)
      | .error error => (.error (.failed error), held) := by
  unfold setTls Cluster.withTls
  cases TlsConfig.ofTexts authority certificate key skip with
  | error error => rfl
  | ok tls =>
      obtain ⟨⟨⟨_, _, _, _, _, hostDialer, _, _⟩, _, _, _⟩, _⟩ := held
      cases hostDialer <;> rfl

theorem closeSession_run (held : Held) :
    closeSession held = held.replaced (held.cluster.closeSession held.world) := by
  obtain ⟨⟨_, _, _, session⟩, _⟩ := held
  cases session <;> rfl

theorem createSession_run (held : Held) :
    createSession held = held.replaced (held.cluster.createSession held.world) := by
  obtain ⟨⟨config, _, _, session⟩, world⟩ := held
  unfold createSession Cluster.createSession
  rw [config_bind, bind_run, Dial.bind_run]
  unfold InPlace.dial
  dsimp only
  cases config.openConnection world with
  | mk result opened =>
      cases result with
      | error abort => rfl
      | ok connection => cases session <;> rfl

/-- What a call in place comes to. -/
theorem call_run (call : Call) (held : Held) :
    InPlace.call call held = held.replaced (held.cluster.perform call held.world) := by
  cases call with
  | setLogin login => rfl
  | setAuthKeyspace name => rfl
  | setOptions options => rfl
  | setProxy explicit environment =>
      refine (discard_run _ held).trans ?_
      change _ = held.replaced (Dial.ofExcept
        ((held.cluster.withNamedProxy explicit environment).map (·.1)) held.world)
      rw [setProxy_run, Held.replaced_ofExcept]
      cases held.cluster.withNamedProxy explicit environment with
      | error error => rfl
      | ok found => rfl
  | installProxy proxy shape =>
      refine (installProxy_run proxy shape held).trans ?_
      exact (held.replaced_ofExcept (held.cluster.withProxy proxy shape)).symm
  | setNameserver nameserver =>
      refine (discard_run _ held).trans ?_
      change _ = held.replaced ((do
        return (← held.cluster.withNameserver nameserver).1 : Dial Cluster) held.world)
      rw [setNameserver_run, Dial.bind_run]
      cases held.cluster.withNameserver nameserver held.world with
      | mk result world => cases result <;> rfl
  | setTls authority certificate key skip =>
      refine (setTls_run authority certificate key skip held).trans ?_
      change _ = held.replaced (Dial.ofExcept
        ((TlsConfig.ofTexts authority certificate key skip).map held.cluster.withTls) held.world)
      rw [Held.replaced_ofExcept]
      cases TlsConfig.ofTexts authority certificate key skip with
      | error error => rfl
      | ok tls => rfl
  | createSession => exact createSession_run held
  | closeSession => exact closeSession_run held

end InPlace

/-- A call makes a step, or leaves the handle as it was. -/
theorem Held.call_step (held : Held) (call : Call) :
    Cluster.Step held.cluster held.world call (held.call call).cluster ∨
      (held.call call).cluster = held.cluster := by
  unfold Held.call
  rw [InPlace.call_run]
  cases run : held.cluster.perform call held.world with
  | mk result world =>
      cases result with
      | ok next => exact Or.inl (Cluster.step_of_perform run)
      | error abort => exact Or.inr rfl

namespace History

/-- The handle and the world as the calls have left them. -/
def held (history : History) : Held := ⟨history.cluster, history.world⟩

theorem call_held (history : History) (call : Call) :
    (history.call call).held = history.held.call call := by
  unfold Held.call
  rw [InPlace.call_run]
  unfold History.call held Held.replaced
  cases history.cluster.perform call history.world with
  | mk result world => cases result <;> rfl

/-- A history tells what calls in place leave. -/
theorem calls_held (history : History) (calls : List Call) :
    (history.calls calls).held = history.held.calls calls := by
  induction calls generalizing history with
  | nil => rfl
  | cons call rest ih =>
      have step := ih (history.call call)
      rw [call_held] at step
      exact step

end History

end ProxyDial
