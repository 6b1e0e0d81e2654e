import ProxyDial.Proofs.Net.Talk
import ProxyDial.Tls.Handshake

set_option autoImplicit false

/-! With which errors a connection that is dialed is refused its protection. None of them is the
error of a list of candidates that is exhausted: a handshake that fails is not a peer out of reach.
-/

namespace ProxyDial
open Text

/-- The connection stands, and it is not protected: its address or the name of its server is of no
use, the handshake fails, or time is up. -/
def Error.IsRefusal (error : Error) : Prop :=
  error.kind = .config ∨ error.kind = .tls ∨ error.kind = .timeout

section
variable {sort : Error → Prop}

/-! Reads and writes return their faults; no use of a socket ends a dial. -/

theorem Socket.read_raises (size : Nat) (socket : Socket) : (socket.read size).Raises sort := by
  apply Dial.raises_get
  intro world
  cases world.links[socket.id]? with
  | none => exact Dial.raises_pure
  | some link =>
      dsimp only
      split
      · exact Dial.raises_pure
      · refine Dial.raises_bind (Dial.raises_of_ok fun world => ⟨_, _, receive_run _ _ _ world⟩) ?_
        intro result
        cases result with
        | ok bytes => exact Dial.raises_bind Dial.raises_modify fun _ => Dial.raises_pure
        | error fault => exact Dial.raises_pure

theorem Socket.write_raises (bytes : Bytes) (socket : Socket) :
    (socket.write bytes).Raises sort := by
  apply Dial.raises_get
  intro world
  cases world.links[socket.id]? with
  | none => exact Dial.raises_pure
  | some link =>
      dsimp only
      split
      · exact Dial.raises_pure
      · refine Dial.raises_bind Dial.raises_modify fun _ => ?_
        exact Dial.raises_bind Dial.raises_modify fun _ => Dial.raises_pure

theorem RawStream.read_raises (size : Nat) (raw : RawStream) : (raw.read size).Raises sort := by
  cases raw with
  | direct socket => exact Dial.raises_bind (socket.read_raises size) fun _ => Dial.raises_pure
  | tunneled stream =>
      refine Dial.raises_bind ?_ fun _ => Dial.raises_pure
      unfold Rewind.read
      split
      · refine Dial.raises_bind ?_ fun _ => Dial.raises_pure
        exact Dial.raises_bind (stream.inner.read_raises size) fun _ => Dial.raises_pure
      · exact Dial.raises_pure

theorem RawStream.setLimit_raises (limit : Option Duration) (raw : RawStream) :
    (raw.setLimit limit).Raises sort :=
  Dial.raises_bind Dial.raises_modify fun _ => Dial.raises_modify

end

theorem DialOptions.budget_refuses (options : DialOptions) (now : Instant) (error : Error)
    (spent : options.budget now = .error error) : error.IsRefusal := by
  rw [budget_error spent]
  exact .inr (.inr rfl)

theorem Destination.parse_refuses (address : String) (error : Error)
    (bad : Destination.parse address = .error error) : error.IsRefusal := by
  unfold parse at bad
  dsimp only at bad
  split at bad
  · cases bad
    exact .inl rfl
  · split at bad
    · cases bad
      exact .inl rfl
    · cases bad

namespace Tls

theorem classify_refuses (fault : ProxyDial.Fault) : (classify fault).IsRefusal := by
  unfold classify
  by_cases late : fault.isTimeout
  · rw [if_pos late]
    unfold Error.ofFault
    rw [if_pos late]
    exact .inr (.inr rfl)
  · rw [if_neg late]
    exact .inr (.inl rfl)

theorem limitStep_refuses (options : DialOptions) (raw : RawStream) :
    (limitStep options raw).Raises Error.IsRefusal := by
  refine Dial.raises_bind ?_ fun limit => raw.setLimit_raises (some limit)
  refine Dial.raises_bind (Dial.raises_of_ok fun world => ⟨_, _, Dial.look_run _ _ world⟩) ?_
  intro now
  exact Dial.raises_ofExcept (options.budget_refuses now)

theorem awaitFault_refuses {α : Type} (host : String) (options : DialOptions) (room : Nat)
    (seen : Bytes) (raw : RawStream) :
    (awaitFault (α := α) host options room seen raw).Raises Error.IsRefusal := by
  induction room generalizing seen raw with
  | zero => exact Dial.raises_fail (.inr (.inr rfl))
  | succ room ih =>
      refine Dial.raises_bind (limitStep_refuses options raw) fun _ => ?_
      refine Dial.raises_bind (raw.read_raises _) fun outcome => ?_
      obtain ⟨result, left⟩ := outcome
      refine Dial.raises_bind (Dial.raises_orFail classify_refuses result) fun bytes => ?_
      cases bytes with
      | nil => exact Dial.raises_fail (.inr (.inl rfl))
      | cons byte bytes =>
          dsimp only
          split
          · exact Dial.raises_fail (.inr (.inl rfl))
          · exact ih _ _

theorem agree_refuses (name : ServerName) (config : TlsConfig) (server : TlsServer)
    (raw : RawStream) : (agree name config server raw).Raises Error.IsRefusal := by
  unfold agree
  refine Dial.raises_bind (Dial.raises_get fun _ => Dial.raises_pure) fun time => ?_
  split
  · exact Dial.raises_fail (.inr (.inl rfl))
  · split
    · exact Dial.raises_fail (.inr (.inl rfl))
    · split
      · exact Dial.raises_fail (.inr (.inl rfl))
      · refine Dial.raises_bind Dial.raises_modify fun _ => ?_
        exact Dial.raises_bind (raw.setLimit_raises none) fun _ => Dial.raises_pure

theorem handshake_refuses (host : String) (config : TlsConfig) (options : DialOptions)
    (raw : RawStream) : (handshake host config options raw).Raises Error.IsRefusal := by
  unfold handshake
  split
  · exact Dial.raises_fail (.inl rfl)
  · refine Dial.raises_bind (limitStep_refuses options raw) fun _ => ?_
    refine Dial.raises_bind (raw.socket.write_raises helloMark) fun written => ?_
    refine Dial.raises_bind (Dial.raises_orFail classify_refuses written) fun _ => ?_
    refine Dial.raises_bind (Dial.raises_get fun _ => Dial.raises_pure) fun server => ?_
    cases server with
    | none => exact awaitFault_refuses host options _ [] raw
    | some server =>
        dsimp only
        split
        · refine Dial.raises_bind (limitStep_refuses options raw) fun _ => ?_
          exact agree_refuses _ config server raw
        · exact awaitFault_refuses host options _ [] raw

end Tls

theorem Transport.protect_refuses (host : String) (config : TlsConfig) (options : DialOptions)
    (transport : Transport) :
    (transport.protect host config options).Raises Error.IsRefusal := by
  refine Dial.raises_bind Dial.raises_started fun started => ?_
  cases transport with
  | tls raw session =>
      exact Dial.raises_bind Dial.raises_modify fun _ => Dial.raises_fail (.inl rfl)
  | plain raw =>
      refine Dial.raises_attempt (Tls.handshake_refuses host config started raw)
        (fun session => Dial.raises_pure) fun error refusal => ?_
      exact Dial.raises_bind Dial.raises_modify fun _ => Dial.raises_fail refusal

/-- Whatever keeps a dialed connection from being protected, it is no failure to connect. -/
theorem Connection.protect_refuses (config : TlsConfig) (options : DialOptions)
    (connection : Connection) :
    (connection.protect config options).Raises Error.IsRefusal := by
  refine Dial.raises_bind Dial.raises_started fun started => ?_
  cases bad : Destination.parse connection.address with
  | error error =>
      refine Dial.raises_bind Dial.raises_modify fun _ => ?_
      exact Dial.raises_fail (Destination.parse_refuses _ error bad)
  | ok destination =>
      refine Dial.raises_bind (connection.transport.protect_refuses _ config started) fun _ => ?_
      exact Dial.raises_pure

end ProxyDial
