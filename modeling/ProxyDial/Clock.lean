import ProxyDial.Text.Record

set_option autoImplicit false

/-! Time: lengths of it, and the instants of a clock that never goes back. A clock has a last
instant; one that would come later has no reading. -/

namespace ProxyDial
open Text

/-- A length of time. -/
structure Duration where
  nanoseconds : Nat
  deriving DecidableEq, Repr

namespace Duration

def perSecond : Nat := 1000000000

def ofSeconds (seconds : Nat) : Duration := ⟨seconds * perSecond⟩

def ofMilliseconds (milliseconds : Nat) : Duration := ⟨milliseconds * 1000000⟩

/-- The whole seconds. -/
def seconds (duration : Duration) : Nat := duration.nanoseconds / perSecond

/-- The nanoseconds beyond the whole seconds. -/
def subsecond (duration : Duration) : Nat := duration.nanoseconds % perSecond

/-- The digits of a part below `10 ^ places`, without zeros at the end. -/
def fraction (places part : Nat) : String :=
  let digits := Nat.toDigits 10 part
  let padded := List.replicate (places - digits.length) '0' ++ digits
  let kept := (padded.reverse.dropWhile (· = '0')).reverse
  if kept.isEmpty then "" else "." ++ String.ofList kept

/-- The length in the largest unit of which there is at least one. -/
def shown (duration : Duration) : String :=
  let nanoseconds := duration.nanoseconds
  if nanoseconds ≥ perSecond then
    toString duration.seconds ++ fraction 9 duration.subsecond ++ "s"
  else if nanoseconds ≥ 1000000 then
    toString (nanoseconds / 1000000) ++ fraction 6 (nanoseconds % 1000000) ++ "ms"
  else if nanoseconds ≥ 1000 then
    toString (nanoseconds / 1000) ++ fraction 3 (nanoseconds % 1000) ++ "µs"
  else toString nanoseconds ++ "ns"

end Duration

/-- A reading of the clock, in nanoseconds since it was started. -/
structure Instant where
  nanoseconds : Nat
  deriving DecidableEq, Repr

namespace Instant

/-- The clock counts its seconds in 63 bits. -/
def limit : Nat := Nat.pow 2 63 * Duration.perSecond

/-- The instant after a length of time, if the clock has it. -/
def after? (start : Instant) (duration : Duration) : Option Instant :=
  let nanoseconds := start.nanoseconds + duration.nanoseconds
  if nanoseconds < limit then some ⟨nanoseconds⟩ else none

/-- The time from `now` until the instant; nothing once it is over. -/
def remaining (instant now : Instant) : Duration := ⟨instant.nanoseconds - now.nanoseconds⟩

def shown (instant : Instant) : String :=
  record "Instant"
    [("tv_sec", toString (instant.nanoseconds / Duration.perSecond)),
      ("tv_nsec", toString (instant.nanoseconds % Duration.perSecond))]

end Instant

end ProxyDial
