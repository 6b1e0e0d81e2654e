import ProxyDial.Clock
import ProxyDial.Error

set_option autoImplicit false

/-! The time budget of a dial. A dial that starts without a deadline gets one, counted from its
start, and every later step draws what is left until then. -/

namespace ProxyDial
open Text

structure DialOptions where
  /-- The bound of a whole dial that has no deadline. -/
  timeout : Duration
  /-- The instant at which a dial must be over. -/
  deadline : Option Instant
  /-- Whether small packets are sent at once. -/
  nodelay : Bool
  deriving DecidableEq, Repr

namespace DialOptions

def default : DialOptions := ⟨.ofSeconds 30, none, true⟩

def withTimeout (options : DialOptions) (timeout : Duration) : DialOptions :=
  { options with timeout := timeout }

def withDeadline (options : DialOptions) (deadline : Instant) : DialOptions :=
  { options with deadline := some deadline }

def withNodelay (options : DialOptions) (nodelay : Bool) : DialOptions :=
  { options with nodelay := nodelay }

/-- The options of a dial that starts now: with a deadline. A deadline that is there already stays.
Nothing where the clock does not reach that far. -/
def started? (options : DialOptions) (now : Instant) : Option DialOptions :=
  match options.deadline with
  | some _ => some options
  | none => (now.after? options.timeout).map options.withDeadline

/-- The time that the next step may take, which is never zero. -/
def budget (options : DialOptions) (now : Instant) : Except Error Duration :=
  let left := match options.deadline with
    | some deadline => deadline.remaining now
    | none => options.timeout
  if left.nanoseconds = 0 then .error .timeout else .ok left

def shown (options : DialOptions) : String :=
  record "DialOptions"
    [("timeout", options.timeout.shown),
      ("deadline", optional (options.deadline.map Instant.shown)),
      ("nodelay", toString options.nodelay)]

end DialOptions

end ProxyDial
