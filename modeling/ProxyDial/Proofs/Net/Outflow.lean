import Mathlib.Data.List.Infix
import ProxyDial.Net.Peer

set_option autoImplicit false

/-! What becomes of a write. The peer may take it in any pieces, and a call that fails or comes to
its limit ends it; so what has been sent is a beginning of what was to be sent, and all of it
exactly where the write succeeds. -/

namespace ProxyDial
open Text

section
variable {α : Type} {late : Fault} {limit : Option Duration} {delay time : Duration}

/-- What has been waited for with success has come in time. -/
theorem waited_ok {outcome : Except Fault α} {value : α}
    (met : waited late limit delay outcome = (.ok value, time)) :
    outcome = .ok value ∧ time = delay := by
  unfold waited at met
  split at met
  · cases met
    exact ⟨rfl, rfl⟩
  · split at met
    · cases met
      exact ⟨rfl, rfl⟩
    · cases met

/-- What comes at once is there within every limit. -/
theorem waited_at_once (outcome : Except Fault α)
    (positive : ∀ left, limit = some left → 0 < left.nanoseconds) :
    waited late limit ⟨0⟩ outcome = (outcome, ⟨0⟩) := by
  cases limit with
  | none => rfl
  | some left => exact if_pos (positive left rfl)

/-- A wait that has a limit is over by then. -/
theorem waited_le (limit : Duration) (outcome : Except Fault α) :
    (waited late (some limit) delay outcome).2.nanoseconds ≤ limit.nanoseconds := by
  unfold waited
  dsimp only
  split
  next inTime => exact Nat.le_of_lt inTime
  next late => exact Nat.le_refl _

end

/-- A call that takes something has waited for that. -/
theorem Intake.meets_ok {limit : Option Duration} {intake : Intake} {more : Nat} {time : Duration}
    (met : intake.meets limit = (.ok more, time)) : intake = .taken time more := by
  cases intake with
  | taken delay count =>
      obtain ⟨same, rfl⟩ := waited_ok met
      cases same
      rfl
  | failed delay fault =>
      obtain ⟨impossible, -⟩ := waited_ok met
      cases impossible
  | silence => cases met

theorem Intake.meets_le (limit : Duration) (intake : Intake) :
    (intake.meets (some limit)).2.nanoseconds ≤ limit.nanoseconds := by
  cases intake with
  | taken delay count => exact waited_le limit _
  | failed delay fault => exact waited_le limit _
  | silence => exact Nat.le_refl _

namespace Peer

variable {peer : Peer} {limit : Option Duration} {received : Nat}

/-- Another call: it takes the first of the bytes and goes on, or ends the write. -/
theorem outflow_call (peer : Peer) (limit : Option Duration) (received : Nat) (byte : UInt8)
    (bytes sent : Bytes) : peer.outflow limit received 0 (byte :: bytes) sent =
      match (peer.takes sent received).meets limit with
      | (.error fault, time) => ⟨sent, .error fault, time⟩
      | (.ok more, time) =>
          (peer.outflow limit received more bytes (sent ++ [byte])).after time :=
  rfl

/-- A write that has been broken off: a part of its bytes has been sent, and the call behind them
has met the fault. -/
structure BreaksOff (peer : Peer) (limit : Option Duration) (received : Nat) (bytes sent : Bytes)
    (fault : Fault) (part : Bytes) : Prop where
  inPart : part <+: bytes
  notWhole : part ≠ bytes
  meets : ((peer.takes (sent ++ part) received).meets limit).1 = .error fault

/-- The call that has broken a write off is the same for what is left of it. -/
theorem BreaksOff.cons {byte : UInt8} {bytes sent part : Bytes} {fault : Fault}
    (breaks : peer.BreaksOff limit received bytes (sent ++ [byte]) fault part) :
    peer.BreaksOff limit received (byte :: bytes) sent fault (byte :: part) where
  inPart := List.cons_prefix_cons.mpr ⟨rfl, breaks.inPart⟩
  notWhole same := breaks.notWhole (List.cons.inj same).2
  meets := by
    have meets := breaks.meets
    rwa [List.append_assoc] at meets

/-- How a write comes out: all of it has been sent, or it has been broken off. -/
inductive Pours (peer : Peer) (limit : Option Duration) (received : Nat) (bytes sent : Bytes) :
    Outflow → Prop
  | whole (time : Duration) : Pours peer limit received bytes sent ⟨sent ++ bytes, .ok (), time⟩
  | broken {fault : Fault} {part : Bytes} (time : Duration)
      (breaks : peer.BreaksOff limit received bytes sent fault part) :
      Pours peer limit received bytes sent ⟨sent ++ part, .error fault, time⟩

/-- What comes of the rest of a write, behind a byte that has been taken, comes of all of it. -/
theorem Pours.cons {byte : UInt8} {bytes sent : Bytes} {flow : Outflow}
    (pours : peer.Pours limit received bytes (sent ++ [byte]) flow) :
    peer.Pours limit received (byte :: bytes) sent flow := by
  cases pours with
  | whole time =>
      rw [List.append_assoc]
      exact .whole time
  | broken time breaks =>
      rw [List.append_assoc]
      exact .broken time breaks.cons

theorem Pours.after {bytes sent : Bytes} {flow : Outflow}
    (pours : peer.Pours limit received bytes sent flow) (time : Duration) :
    peer.Pours limit received bytes sent (flow.after time) := by
  cases pours with
  | whole => exact .whole _
  | broken _ breaks => exact .broken _ breaks

/-- Every write comes out in one of the two ways. -/
theorem outflow_pours (peer : Peer) (limit : Option Duration) (received credit : Nat)
    (bytes sent : Bytes) :
    peer.Pours limit received bytes sent (peer.outflow limit received credit bytes sent) := by
  induction bytes generalizing credit sent with
  | nil =>
      have all : peer.Pours limit received [] sent ⟨sent ++ [], .ok (), ⟨0⟩⟩ := .whole ⟨0⟩
      rw [List.append_nil] at all
      cases credit <;> exact all
  | cons byte bytes ih =>
      cases credit with
      | succ credit => exact (ih credit (sent ++ [byte])).cons
      | zero =>
          rw [outflow_call]
          cases met : (peer.takes sent received).meets limit with
          | mk result time =>
              cases result with
              | ok more => exact (ih more (sent ++ [byte])).cons.after time
              | error fault =>
                  have breaks : peer.BreaksOff limit received (byte :: bytes) sent fault [] := by
                    refine ⟨List.nil_prefix, nofun, ?_⟩
                    rw [List.append_nil, met]
                  have cut := Pours.broken time breaks
                  rw [List.append_nil] at cut
                  exact cut

/-- A peer that takes every call at once. -/
def TakesAll (peer : Peer) : Prop :=
  ∀ sent received, ∃ more, peer.takes sent received = .taken ⟨0⟩ more

theorem ofStream_takesAll (stream : Bytes) (ending : Arrival) :
    (ofStream stream ending).TakesAll := fun _ _ => ⟨0, rfl⟩

/-- Such a peer takes every write whole, and lets none wait. -/
theorem TakesAll.outflow (takes : peer.TakesAll)
    (positive : ∀ left, limit = some left → 0 < left.nanoseconds) (received credit : Nat)
    (bytes sent : Bytes) :
    peer.outflow limit received credit bytes sent = ⟨sent ++ bytes, .ok (), ⟨0⟩⟩ := by
  induction bytes generalizing credit sent with
  | nil =>
      rw [List.append_nil]
      cases credit <;> rfl
  | cons byte bytes ih =>
      have behind : sent ++ [byte] ++ bytes = sent ++ byte :: bytes := List.append_assoc ..
      cases credit with
      | succ credit => rw [Peer.outflow, ih, behind]
      | zero =>
          obtain ⟨more, taken⟩ := takes sent received
          have met : (peer.takes sent received).meets limit = (.ok more, ⟨0⟩) := by
            rw [taken]
            exact waited_at_once _ positive
          rw [outflow_call, met]
          dsimp only
          rw [ih, behind]
          rfl

/-- A peer that lets no write wait: what it takes it takes at once. -/
def TakesAtOnce (peer : Peer) : Prop :=
  ∀ sent received delay more, peer.takes sent received = .taken delay more →
    delay.nanoseconds = 0

/-- A write to such a peer waits in its last call only. -/
theorem TakesAtOnce.outflow_time_le (takes : peer.TakesAtOnce) (left : Duration)
    (received credit : Nat) (bytes sent : Bytes) :
    (peer.outflow (some left) received credit bytes sent).time.nanoseconds ≤ left.nanoseconds := by
  induction bytes generalizing credit sent with
  | nil =>
      rw [Peer.outflow.eq_def]
      exact Nat.zero_le _
  | cons byte bytes ih =>
      cases credit with
      | succ credit => exact ih credit _
      | zero =>
          rw [outflow_call]
          have most := (peer.takes sent received).meets_le left
          cases met : (peer.takes sent received).meets (some left) with
          | mk result time =>
              rw [met] at most
              cases result with
              | error fault => exact most
              | ok more =>
                  have zero := takes sent received time more (Intake.meets_ok met)
                  have later := ih more (sent ++ [byte])
                  unfold Outflow.after
                  dsimp only
                  omega

end Peer

end ProxyDial
