import ProxyDial.Cluster.Handle
import ProxyDial.Proofs.Tls.Refusal

set_option autoImplicit false

/-! The two ways in which a connection through a SOCKS proxy gets its protection. A host dialer
walks the candidates and protects the winner; a cluster with an address dialer protects each
candidate that it reaches, within the walk. The two end alike exactly unless the winner refuses its
protection: then the host dialer fails with what the handshake says, and the cluster walks on. -/

namespace ProxyDial
open Text

/-- The dial returns a connection, and the upgrade of it fails. -/
def Dial.FailsToUpgrade (dial : Dial Connection) (upgrade : Connection → Dial Connection)
    (world : World) : Prop :=
  ∃ connection opened error behind,
    dial world = (.ok connection, opened) ∧
      upgrade connection opened = (.error (.failed error), behind)

namespace Candidates

theorem walk_cons_run (dial : String → Dial Connection) (all : List String)
    (failures : List (String × String)) (candidate : String) (rest : List String) (world : World) :
    walk dial all failures (candidate :: rest) world = match dial candidate world with
      | (.ok connection, behind) => (.ok connection, behind)
      | (.error (.failed error), behind) =>
          walk dial all ((candidate, error.message) :: failures) rest behind
      | (.error .clockOverflow, behind) => (.error .clockOverflow, behind) := by
  rw [walk, Dial.bind_run]
  unfold Dial.attempt
  cases dial candidate world with
  | mk result behind =>
      cases result with
      | ok connection => rfl
      | error abort => cases abort <;> rfl

/-- A walk fails with one error, that of an exhausted list. -/
theorem walk_raises (dial : String → Dial Connection) (all : List String)
    (failures : List (String × String)) (left : List String) :
    (walk dial all failures left).Raises (·.kind = .connect) := by
  induction left generalizing failures with
  | nil => exact Dial.raises_fail rfl
  | cons candidate rest ih =>
      have anything : (dial candidate).Raises fun _ => True := fun _ _ _ => trivial
      exact Dial.raises_attempt anything (fun _ => Dial.raises_pure) fun error _ => ih _

section
variable (dial : String → Dial Connection) (upgrade : Connection → Dial Connection)
  (all : List String)

/-- To upgrade every candidate comes to the same as to upgrade the winner, while the winner can be
upgraded. -/
theorem walk_upgrade_of_kept (failures : List (String × String)) (left : List String)
    (world : World) (kept : ¬ (walk dial all failures left).FailsToUpgrade upgrade world) :
    walk (fun candidate => dial candidate >>= upgrade) all failures left world =
      (walk dial all failures left >>= upgrade) world := by
  induction left generalizing failures world with
  | nil => rfl
  | cons candidate rest ih =>
      have both := walk_cons_run (fun candidate => dial candidate >>= upgrade) all failures
        candidate rest world
      have plain := walk_cons_run dial all failures candidate rest world
      unfold Dial.FailsToUpgrade at kept
      rw [both, Dial.bind_run, Dial.bind_run, plain]
      rw [plain] at kept
      -- Both walks pass over what is not reached, and differ at most in the upgrade of the winner.
      cases reached : dial candidate world with
      | mk result opened =>
          rw [reached] at kept
          cases result with
          | ok connection =>
              dsimp only
              cases upgraded : upgrade connection opened with
              | mk result behind =>
                  cases result with
                  | ok done => rfl
                  | error abort =>
                      cases abort with
                      | failed error =>
                          exact absurd ⟨connection, opened, error, behind, rfl, upgraded⟩ kept
                      | clockOverflow => rfl
          | error abort =>
              cases abort with
              | failed error =>
                  dsimp only at kept ⊢
                  rw [ih _ opened kept, Dial.bind_run]
              | clockOverflow => rfl

/-- When the winner cannot be upgraded, the walk goes on with the candidates behind it. -/
theorem walk_upgrade_of_failed {connection : Connection} {opened behind : World} {error : Error}
    (failures : List (String × String)) (left : List String) (world : World)
    (won : walk dial all failures left world = (.ok connection, opened))
    (failed : upgrade connection opened = (.error (.failed error), behind)) :
    ∃ passed candidate rest told,
      left = passed ++ candidate :: rest ∧
        walk (fun candidate => dial candidate >>= upgrade) all failures left world =
          walk (fun candidate => dial candidate >>= upgrade) all
            ((candidate, error.message) :: told) rest behind := by
  induction left generalizing failures world with
  | nil => cases won
  | cons candidate rest ih =>
      have both := walk_cons_run (fun candidate => dial candidate >>= upgrade) all failures
        candidate rest world
      rw [walk_cons_run] at won
      rw [Dial.bind_run] at both
      cases reached : dial candidate world with
      | mk result middle =>
          rw [reached] at won both
          cases result with
          | ok reached =>
              cases won
              dsimp only at both
              rw [failed] at both
              exact ⟨[], candidate, rest, failures, rfl, both⟩
          | error abort =>
              cases abort with
              | failed problem =>
                  -- The two walks have failed at this candidate alike.
                  obtain ⟨passed, winner, rest', told, split, later⟩ := ih _ middle won
                  refine ⟨candidate :: passed, winner, rest', told, ?_, both.trans later⟩
                  rw [split]
                  rfl
              | clockOverflow => cases won

end

end Candidates

/-- Two dials end alike: with the same address, or with errors that callers treat alike. -/
def Dial.EndAlike : Except Abort Connection → Except Abort Connection → Prop
  | .ok one, .ok other => one.address = other.address
  | .error (.failed one), .error (.failed other) =>
      one.kind = other.kind ∧ one.isRetryable = other.isRetryable
  | .error .clockOverflow, .error .clockOverflow => True
  | _, _ => False

instance Dial.decidableEndAlike : DecidableRel Dial.EndAlike
  | .ok one, .ok other => inferInstanceAs (Decidable (one.address = other.address))
  | .error (.failed one), .error (.failed other) =>
      inferInstanceAs (Decidable (one.kind = other.kind ∧ one.isRetryable = other.isRetryable))
  | .error .clockOverflow, .error .clockOverflow => .isTrue trivial
  | .ok _, .error _ => .isFalse id
  | .error (.failed _), .ok _ => .isFalse id
  | .error .clockOverflow, .ok _ => .isFalse id
  | .error (.failed _), .error .clockOverflow => .isFalse id
  | .error .clockOverflow, .error (.failed _) => .isFalse id

theorem Dial.endAlike_refl (outcome : Except Abort Connection) : EndAlike outcome outcome := by
  cases outcome with
  | ok connection => exact rfl
  | error abort =>
      cases abort with
      | failed error => exact ⟨rfl, rfl⟩
      | clockOverflow => trivial

namespace ClusterConfig
variable (config : ClusterConfig) (proxy : Proxy) (tls : TlsConfig)

/-- A cluster that dials through a host dialer, which holds the protection. -/
def overHostDialer (isSocks : proxy.scheme = .socks5) : ClusterConfig :=
  { config with
    dialer := none, hostDialer := some ⟨⟨proxy, config.options⟩, some tls, isSocks⟩, tls := none }

/-- A cluster that dials each contact point through the proxy, and holds the protection itself. -/
def overAddressDialer : ClusterConfig :=
  { config with dialer := some ⟨proxy, config.options⟩, hostDialer := none, tls := some tls }

/-- The connection to the first contact point that the proxy reaches, without protection. -/
def reachFirst : Dial Connection := ProxyDialer.dial ⟨proxy, config.options⟩ config.contactPoints

/-- The proxy reaches a contact point, and the first one that it reaches refuses its protection. -/
def WinnerRefuses (world : World) : Prop :=
  (config.reachFirst proxy).FailsToUpgrade (·.protect tls config.options) world

end ClusterConfig

/-- A cluster gets the host dialer by the setup that protects it and names a SOCKS proxy. -/
theorem Cluster.withTls_withProxy_host (cluster : Cluster) (tls : TlsConfig) (proxy : Proxy)
    (isSocks : proxy.scheme = .socks5) (unset : cluster.config.hostDialer = none) :
    (cluster.withTls tls).withProxy proxy .host = .ok
      ⟨cluster.config.overHostDialer proxy tls isSocks, cluster.authKeyspace, some proxy,
        cluster.session⟩ := by
  unfold withTls withProxy hostDialer HostDialer.ofProxy
  rw [unset]
  dsimp only
  rw [dif_pos isSocks]
  rfl

/-- The same setup with the address dialer leaves the protection with the cluster. -/
theorem Cluster.withTls_withProxy_address (cluster : Cluster) (tls : TlsConfig) (proxy : Proxy)
    (unset : cluster.config.hostDialer = none) :
    (cluster.withTls tls).withProxy proxy .address = .ok
      ⟨cluster.config.overAddressDialer proxy tls, cluster.authKeyspace, some proxy,
        cluster.session⟩ := by
  unfold withTls withProxy
  rw [unset]
  rfl

namespace ClusterConfig
variable (config : ClusterConfig) (proxy : Proxy) (tls : TlsConfig)

theorem openConnection_overHostDialer (isSocks : proxy.scheme = .socks5) :
    (config.overHostDialer proxy tls isSocks).openConnection =
      config.reachFirst proxy >>= (·.protect tls config.options) :=
  rfl

theorem openConnection_overAddressDialer :
    (config.overAddressDialer proxy tls).openConnection =
      firstReachable config.contactPoints fun address =>
        ProxyDialer.dialAddress ⟨proxy, config.options⟩ address >>=
          (·.protect tls config.options) :=
  rfl

/-- Unless the winner refuses its protection, the two ways do the same. -/
theorem two_paths_agree_of_kept (isSocks : proxy.scheme = .socks5) (world : World)
    (kept : ¬ config.WinnerRefuses proxy tls world) :
    (config.overAddressDialer proxy tls).openConnection world =
      (config.overHostDialer proxy tls isSocks).openConnection world := by
  rw [openConnection_overAddressDialer, openConnection_overHostDialer]
  unfold WinnerRefuses at kept
  unfold reachFirst ProxyDialer.dial firstReachable at kept ⊢
  cases points : config.contactPoints.addresses with
  | nil => rfl
  | cons address rest =>
      rw [points] at kept
      exact Candidates.walk_upgrade_of_kept _ _ _ [] _ world kept

/-- When the winner refuses its protection, the host dialer fails with the refusal, and the cluster
walks on behind the winner. -/
theorem two_paths_of_refused (isSocks : proxy.scheme = .socks5) {world opened behind : World}
    {winner : Connection} {error : Error}
    (won : config.reachFirst proxy world = (.ok winner, opened))
    (refused : winner.protect tls config.options opened = (.error (.failed error), behind)) :
    (config.overHostDialer proxy tls isSocks).openConnection world =
        (.error (.failed error), behind) ∧
      ∃ passed candidate rest told,
        config.contactPoints.addresses = passed ++ candidate :: rest ∧
          (config.overAddressDialer proxy tls).openConnection world =
            Candidates.walk (config.overAddressDialer proxy tls).openAddress
              config.contactPoints.addresses ((candidate, error.message) :: told) rest behind := by
  constructor
  · rw [openConnection_overHostDialer, Dial.bind_run, won]
    exact refused
  · rw [openConnection_overAddressDialer]
    unfold reachFirst ProxyDialer.dial firstReachable at won
    unfold firstReachable
    cases points : config.contactPoints.addresses with
    | nil =>
        rw [points] at won
        cases won
    | cons address rest =>
        rw [points] at won
        exact Candidates.walk_upgrade_of_failed _ (·.protect tls config.options) _ [] _ world won
          refused

/-- The two ways end alike exactly unless the winner refuses its protection. They then leave the
same world behind as well. -/
theorem two_paths_endAlike_iff (isSocks : proxy.scheme = .socks5) (world : World) :
    (Dial.EndAlike ((config.overHostDialer proxy tls isSocks).openConnection world).1
        ((config.overAddressDialer proxy tls).openConnection world).1 ↔
      ¬ config.WinnerRefuses proxy tls world) ∧
    (¬ config.WinnerRefuses proxy tls world →
      (config.overAddressDialer proxy tls).openConnection world =
        (config.overHostDialer proxy tls isSocks).openConnection world) := by
  refine ⟨⟨?differ, ?agree⟩, config.two_paths_agree_of_kept proxy tls isSocks world⟩
  case agree =>
    intro kept
    rw [config.two_paths_agree_of_kept proxy tls isSocks world kept]
    exact Dial.endAlike_refl _
  case differ =>
    rintro alike ⟨winner, opened, error, behind, won, refused⟩
    obtain ⟨host, passed, candidate, rest, told, -, address⟩ :=
      config.two_paths_of_refused proxy tls isSocks won refused
    rw [host, address] at alike
    -- A refusal is of another kind than the one error that a walk fails with.
    have refusal : error.IsRefusal :=
      (winner.protect_refuses tls config.options opened).of_run refused error rfl
    have walked := Candidates.walk_raises (config.overAddressDialer proxy tls).openAddress
      config.contactPoints.addresses ((candidate, error.message) :: told) rest behind
    cases run : Candidates.walk (config.overAddressDialer proxy tls).openAddress
        config.contactPoints.addresses ((candidate, error.message) :: told) rest behind with
    | mk result final =>
        rw [run] at alike
        cases result with
        | ok connection => exact alike
        | error abort =>
            cases abort with
            | clockOverflow => exact alike
            | failed exhausted =>
                have sameKind : error.kind = exhausted.kind := alike.1
                rw [walked.of_run run exhausted rfl] at sameKind
                rcases refusal with kind | kind | kind <;> rw [kind] at sameKind <;> cases sameKind

/-- Without a network the proxy reaches nobody, and both ways tell that. -/
theorem two_paths_agree_without_network :
    let config := ofHosts ["10.0.0.5"]
    let proxy : Proxy := ⟨.socks5, "10.0.0.1", 1080, none⟩
    let tls : TlsConfig := ⟨[⟨[], [], none⟩], false, none⟩
    proxy.scheme = .socks5 ∧ ¬ config.WinnerRefuses proxy tls .isolated ∧
      (config.overAddressDialer proxy tls).openConnection .isolated =
        (config.overHostDialer proxy tls rfl).openConnection .isolated := by
  intro config proxy tls
  have unreached : (config.reachFirst proxy .isolated).1.isOk = false := by decide +kernel
  have kept : ¬ config.WinnerRefuses proxy tls .isolated := by
    rintro ⟨winner, opened, error, behind, won, -⟩
    rw [won] at unreached
    cases unreached
  exact ⟨rfl, kept, (config.two_paths_endAlike_iff proxy tls rfl .isolated).2 kept⟩

/-- A host at which every peer opens the tunnel that it is asked for, and then hangs up. -/
def hangingUp : World := { World.isolated with
  network := fun _ _ =>
    .accepted ⟨0⟩ (.ofStream [5, 0, 5, 0, 0, 1, 0, 0, 0, 0, 0, 0] (.closed ⟨0⟩)) }

/-- To the one contact point the tunnel opens, and the handshake in it fails. One way tells just
that; the other one tells that nothing can be reached, which is worth another try. -/
theorem hang_up_ends_two_paths_apart :
    let config := ofHosts ["10.0.0.5"]
    let proxy : Proxy := ⟨.socks5, "10.0.0.1", 1080, none⟩
    let tls : TlsConfig := ⟨[⟨[], [], none⟩], false, none⟩
    ¬ Dial.EndAlike ((config.overHostDialer proxy tls rfl).openConnection hangingUp).1
      ((config.overAddressDialer proxy tls).openConnection hangingUp).1 := by
  decide +kernel

end ClusterConfig

end ProxyDial
