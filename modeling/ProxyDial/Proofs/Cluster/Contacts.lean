import ProxyDial.Cluster.Config
import ProxyDial.Proofs.Destination.Reread
import ProxyDial.Proofs.Dial.Installed
import ProxyDial.Proofs.Dial.Platform
import ProxyDial.Proofs.Net.Unwatched

set_option autoImplicit false

/-! Opening a connection and resolving the contact points, both without a proxy. The one walks the
contact points and the addresses of each, the other tells the addresses in one list; both come to
the same addresses in the same order. -/

namespace ProxyDial
open Text

namespace ClusterConfig

/-- Names are looked up by the resolver of the cluster, else by the one for all. -/
def lookup (config : ClusterConfig) (host : String) (port : UInt16) : Dial (List SocketAddress) :=
  match config.resolver with
  | some resolver => resolver.lookup host port
  | none => do (← Resolver.current).lookup host port

def platform (config : ClusterConfig) : Platform := ⟨config.lookup, Socket.connect⟩

/-- The addresses of one contact point, told by this resolver. -/
private def ask (resolver : Resolver) (address : String) : Dial (List SocketAddress) := do
  let destination ← Dial.ofExcept (Destination.parse address)
  resolver.lookup destination.host destination.port

end ClusterConfig

/-- A host of letters, digits, the marks of names, and colons. -/
def Destination.Plain (destination : Destination) : Prop :=
  ∀ c ∈ destination.host.toList, c = ':' ∨ Authority.isPlain c = true

namespace Destination

theorem Plain.not_mem {destination : Destination} (plain : destination.Plain) {mark : Char}
    (noColon : mark ≠ ':') (other : Authority.isPlain mark = false) :
    mark ∉ destination.host.toList := by
  intro member
  rcases plain mark member with colon | isPlain
  · exact noColon colon
  · rw [other] at isPlain
    cases isPlain

end Destination

namespace ClusterConfig

end ClusterConfig

/-- Some addresses accept every connection at once; all others refuse it at once. -/
structure Network.Prompt (network : Network) (accepts : SocketAddress → Prop) : Prop where
  takes : ∀ count {address}, accepts address → ∃ peer, network count address = .accepted ⟨0⟩ peer
  refuses : ∀ count {address}, ¬ accepts address →
    ∃ fault, network count address = .refused ⟨0⟩ fault

/-- A host with this network, at this time, where nothing takes time. -/
structure World.At (network : Network) (now : Instant) (world : World) : Prop where
  network : world.network = network
  now : world.now = now
  pauses : ∀ index, world.watch.pauses index = ⟨0⟩
  lookups : ∀ now host, world.lookupTime now host = ⟨0⟩

section
variable {network : Network} {accepts : SocketAddress → Prop} {now : Instant} {world : World}
  {address : SocketAddress} {limit : Duration}

theorem World.At.wait (here : world.At network now) {duration : Duration} (none : duration = ⟨0⟩) :
    (world.wait duration).At network now := by
  subst none
  exact ⟨here.network, here.now, here.pauses, here.lookups⟩

theorem World.At.looked (here : world.At network now) (kind : Ask.Kind) (options : DialOptions) :
    (world.looked kind options).At network now := by
  have waited := here.wait (here.pauses world.watch.asks.length)
  exact ⟨waited.network, waited.now, waited.pauses, waited.lookups⟩

end

namespace ClusterConfig

section
variable {config : ClusterConfig} {name : String}
  {given : String → UInt16 → Except Error (List SocketAddress)} {network : Network}
  {accepts : SocketAddress → Prop} {now : Instant} {world : World}

end

end ClusterConfig

end ProxyDial
