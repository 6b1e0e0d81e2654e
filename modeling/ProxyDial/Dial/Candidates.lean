import ProxyDial.Destination
import ProxyDial.Net.Stream

set_option autoImplicit false

/-! Walking a list of candidates: they are tried strictly in their order, until one is reached. -/

namespace ProxyDial

/-- Tries the candidates; `failures` holds those that failed, in reverse. -/
def Candidates.walk (dial : String → Dial Connection) (all : List String) :
    (failures : List (String × String)) → List String → Dial Connection
  | failures, [] => .fail (.connect (.candidatesExhausted all failures.reverse))
  | failures, candidate :: rest => do
      match ← Dial.attempt (dial candidate) with
      | .ok connection => return connection
      | .error error => walk dial all ((candidate, error.message) :: failures) rest

/-- The connection to the first candidate that can be dialed. When none can, the one error tells
what became of each. -/
def firstReachable (candidates : Candidates) (dial : String → Dial Connection) : Dial Connection :=
  match candidates.addresses with
  | [] => .fail (.config .noCandidates)
  | addresses => Candidates.walk dial addresses [] addresses

end ProxyDial
