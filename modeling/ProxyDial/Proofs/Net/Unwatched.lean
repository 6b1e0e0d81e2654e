import ProxyDial.Net.Connect
import ProxyDial.Proofs.Net.Talk

set_option autoImplicit false

/-! Steps that do not look at the clock. They may wait, so that it goes on meanwhile, but nobody
sees it go. -/

namespace ProxyDial
open Text

namespace Dial

variable {α β : Type}

/-- However the dial ends, nothing has happened but that time has passed. -/
def Waits (dial : Dial α) : Prop :=
  ∀ world, dial.Ensures world fun _ behind => ∃ duration, behind = world.wait duration

theorem waits_pure (value : α) : Waits (pure value) := fun _ => ⟨⟨0⟩, rfl⟩

theorem waits_awaitLookup (host : String) : (awaitLookup host).Waits := fun _ => ⟨_, rfl⟩

theorem waits_get {next : World → Dial β} (rest : ∀ world, (next world).Waits) :
    Waits (get >>= next) :=
  fun world => rest world world

theorem waits_bind {first : Dial α} {next : α → Dial β} (waits : first.Waits)
    (rest : ∀ value, (next value).Waits) : Waits (first >>= next) := by
  intro world
  apply ensures_bind
  refine (waits world).mono ?_
  rintro result middle ⟨duration, rfl⟩
  cases result with
  | error abort => exact ⟨duration, rfl⟩
  | ok value =>
      refine (rest value _).mono ?_
      rintro result behind ⟨more, rfl⟩
      refine ⟨⟨duration.nanoseconds + more.nanoseconds⟩, ?_⟩
      simp only [World.wait, Nat.add_assoc]

end Dial

open Dial

namespace Socket

variable (socket : Socket)

end Socket

/-- To look a host up takes time, and changes nothing else. -/
theorem systemAddresses_waits (host : List Char) : (systemAddresses host).Waits := by
  unfold systemAddresses
  split
  · exact waits_pure _
  · split
    · exact waits_pure _
    · apply waits_bind (waits_awaitLookup _)
      intro _
      exact waits_get fun world => waits_pure _

theorem addressesOf_waits (address : String) : (addressesOf address).Waits := by
  unfold addressesOf
  dsimp only
  split
  · exact waits_pure _
  · exact waits_pure _
  · split
    · exact waits_pure _
    · exact waits_bind (systemAddresses_waits _) fun _ => waits_pure _

end ProxyDial
