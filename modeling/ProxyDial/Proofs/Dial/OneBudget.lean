import ProxyDial.Proofs.Dial.Budget
import ProxyDial.Proofs.Net.Script
import ProxyDial.Proofs.Net.Unwatched

set_option autoImplicit false

/-! One dial draws from one budget. Dialing, connecting and the handshake each start anew, and each
draws the time for its calls one by one; but all of them see the deadline that the dial has from its
start, however much time passes in each call and behind each look at the clock. -/

namespace ProxyDial
open Text Dial

/-- Looks at the clock from one instant to another, one after the other, with options of this
deadline. -/
structure LooksWithin (deadline start finish : Instant) (asks : List Ask) : Prop where
  seen : ∀ ask ∈ asks, ask.options.deadline = some deadline
  ordered : asks.Pairwise fun before ask => before.now.nanoseconds ≤ ask.now.nanoseconds
  since : ∀ ask ∈ asks, start.nanoseconds ≤ ask.now.nanoseconds
  past : ∀ ask ∈ asks, ask.now.nanoseconds ≤ finish.nanoseconds
  forward : start.nanoseconds ≤ finish.nanoseconds

namespace LooksWithin

variable {deadline start middle finish : Instant} {asks more : List Ask}

theorem nil (forward : start.nanoseconds ≤ finish.nanoseconds) :
    LooksWithin deadline start finish [] :=
  ⟨nofun, .nil, nofun, nofun, forward⟩

theorem append (first : LooksWithin deadline start middle asks)
    (second : LooksWithin deadline middle finish more) :
    LooksWithin deadline start finish (asks ++ more) where
  seen ask member := (List.mem_append.mp member).elim (first.seen ask) (second.seen ask)
  ordered := by
    apply List.pairwise_append.mpr
    refine ⟨first.ordered, second.ordered, ?_⟩
    intro before early ask late
    exact Nat.le_trans (first.past before early) (second.since ask late)
  since ask member := (List.mem_append.mp member).elim (first.since ask)
    fun late => Nat.le_trans first.forward (second.since ask late)
  past ask member := (List.mem_append.mp member).elim
    (fun early => Nat.le_trans (first.past ask early) second.forward) (second.past ask)
  forward := Nat.le_trans first.forward second.forward

end LooksWithin

/-- The time of a step is drawn when the deadline has come. -/
def Ask.Late (deadline : Instant) (ask : Ask) : Prop :=
  ask.kind = .draws ∧ deadline.nanoseconds ≤ ask.now.nanoseconds

/-- What a run has done that draws on a deadline. It fails for want of time if it draws too late. -/
structure Drawn {α : Type} (deadline : Instant) (world : World) (asks : List Ask)
    (result : Except Abort α) (behind : World) : Prop where
  added : behind.watch.asks = world.watch.asks ++ asks
  within : LooksWithin deadline world.now behind.now asks
  late : ∀ ask ∈ asks, ask.Late deadline → result = .error (.failed .timeout)

theorem Drawn.nil {α : Type} {deadline : Instant} {world behind : World} {result : Except Abort α}
    (watch : behind.watch = world.watch)
    (forward : world.now.nanoseconds ≤ behind.now.nanoseconds) :
    Drawn deadline world [] result behind :=
  ⟨by rw [watch, List.append_nil], .nil forward, nofun⟩

namespace Dial

variable {α β : Type} {options : DialOptions} {deadline : Instant}

end Dial

section
variable {options : DialOptions} {deadline : Instant}

/-! Connecting. -/

end

/-! The whole dial. -/

/-- The time that a step gets. -/
def Ask.left (ask : Ask) : Except Error Duration := ask.options.budget ask.now

/-- What a step gets that asks with a deadline. -/
structure Ask.Timed (deadline : Instant) (ask : Ask) : Prop where
  has : ask.options.deadline = some deadline
  left : ask.left = if ask.now.nanoseconds < deadline.nanoseconds then
    .ok (deadline.remaining ask.now) else .error .timeout

namespace Ask.Timed

variable {deadline : Instant} {ask : Ask}

end Ask.Timed

end ProxyDial
