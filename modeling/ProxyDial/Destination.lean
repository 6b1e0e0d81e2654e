import ProxyDial.Address.Socket
import ProxyDial.Destination.Authority
import ProxyDial.Error
import ProxyDial.Text.Blank

set_option autoImplicit false

/-! Destinations of dials: one host with a port, and the list of those that are tried in order. -/

namespace ProxyDial
open Text

/-- Where one tunnel leads. -/
structure Destination where
  host : String
  port : UInt16
  deriving DecidableEq, Repr

namespace Destination

/-- The form `host:port`, as it is written to a proxy. -/
def authority (destination : Destination) : String :=
  joinHostPort destination.host destination.port

instance : ToString Destination := ⟨authority⟩

/-- The destination that a text names. Blanks around it do not matter; the port is required. -/
def parse (address : String) : Except Error Destination :=
  let text := trimmed address.toList
  match Authority.validate text with
  | .error problem => .error (.config (.invalidDestination address problem.message))
  | .ok () =>
      match (Authority.portText? text).bind readUInt16? with
      | none => .error (.config (.destinationWithoutPort address))
      | some port => .ok ⟨String.ofList (unbracketed (Authority.host text)), port⟩

end Destination

/-- Addresses in the order in which they are tried. -/
structure Candidates where
  addresses : List String
  deriving DecidableEq, Repr

namespace Candidates

def single (address : String) : Candidates := ⟨[address]⟩

instance : ToString Candidates := ⟨fun candidates => ", ".intercalate candidates.addresses⟩

def shown (candidates : Candidates) : String :=
  tagged "HostCandidates" [sequence (candidates.addresses.map quoted)]

end Candidates

end ProxyDial
