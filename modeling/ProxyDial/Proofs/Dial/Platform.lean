import ProxyDial.Dial.Direct
import ProxyDial.Proofs.Dial.InOrder
import ProxyDial.Proofs.Net.Script

set_option autoImplicit false

/-! Dials without a proxy, over whatever looks names up and connects to addresses. While both behave
the same each time and no deadline expires, the addresses that all contact points have are tried one
after the other, up to the first one that accepts. -/

namespace ProxyDial

/-- What a dial without a proxy needs of its host. -/
structure Platform where
  lookup : String → UInt16 → Dial (List SocketAddress)
  connect : SocketAddress → Duration → Dial (Except Fault Socket)

namespace Platform

/-- Tries the addresses in their order, each within what is left of the budget. -/
def connectFirst (platform : Platform) (options : DialOptions) :
    Option Fault → List SocketAddress → Dial Socket
  | none, [] => .fail (.config .noAddresses)
  | some last, [] => .fail (.ofFault last)
  | _, address :: rest => do
      let limit ← Dial.budget options
      match ← platform.connect address limit with
      | .ok socket =>
          if options.nodelay then socket.setNodelay
          return socket
      | .error fault => platform.connectFirst options (some fault) rest

def connectAny (platform : Platform) (addresses : List SocketAddress) (options : DialOptions) :
    Dial Socket := do
  platform.connectFirst (← Dial.started options) none addresses

/-- A plain connection to the first address that a contact point has. -/
def dial (platform : Platform) (options : DialOptions) (point : String) : Dial Connection := do
  let destination ← Dial.ofExcept (Destination.parse point)
  let addresses ← platform.lookup destination.host destination.port
  let socket ← platform.connectAny addresses options
  return ⟨.plain (.direct socket), destination.authority⟩

def openConnection (platform : Platform) (options : DialOptions) (points : Candidates) :
    Dial Connection :=
  firstReachable points (platform.dial options)

/-- The addresses of one contact point. -/
def addressesOf (platform : Platform) (point : String) : Dial (List SocketAddress) := do
  let destination ← Dial.ofExcept (Destination.parse point)
  platform.lookup destination.host destination.port

/-- The addresses of all contact points. -/
def resolve (platform : Platform) (points : Candidates) : Dial (List SocketAddress) := do
  let addresses ← points.addresses.mapM platform.addressesOf
  return addresses.flatten

/-- There is time left for each of the addresses when its turn comes. -/
def InTime (platform : Platform) (options : DialOptions) (patience : Duration) :
    List SocketAddress → World → Prop
  | [], _ => True
  | address :: rest, world => ∃ left, options.budget world.now = .ok left ∧
      patience.nanoseconds < left.nanoseconds ∧
      ∀ fault behind,
        platform.connect address left (world.looked .draws options) = (.ok (.error fault), behind) →
          platform.InTime options patience rest behind

/-- No deadline expires while the contact points are dialed, up to the one that is reached. -/
def Unexpired (platform : Platform) (options : DialOptions) (patience : Duration) :
    List String → World → Prop
  | [], _ => True
  | point :: points, world =>
      (∀ addresses behind, platform.addressesOf point world = (.ok addresses, behind) →
        ∃ started, options.started? behind.now = some started ∧
          platform.InTime started patience addresses (behind.looked .starts options)) ∧
      ∀ error behind, platform.dial options point world = (.error (.failed error), behind) →
        platform.Unexpired options patience points behind

/-- Between two worlds, connections have been attempted to just these addresses, in their order.
Names may have been looked up, and the clock may have been looked at. -/
inductive Attempts (platform : Platform) : List SocketAddress → World → World → Prop
  | done {world : World} : Attempts platform [] world world
  | looked {kind : Ask.Kind} {options : DialOptions} {tried : List SocketAddress}
      {world behind : World}
      (later : Attempts platform tried (world.looked kind options) behind) :
      Attempts platform tried world behind
  | lookup {host : String} {port : UInt16} {answer : Except Abort (List SocketAddress)}
      {tried : List SocketAddress} {world middle behind : World}
      (run : platform.lookup host port world = (answer, middle))
      (later : Attempts platform tried middle behind) : Attempts platform tried world behind
  | connect {address : SocketAddress} {limit : Duration}
      {outcome : Except Abort (Except Fault Socket)}
      {tried : List SocketAddress} {world middle behind : World}
      (run : platform.connect address limit world = (outcome, middle))
      (later : Attempts platform tried middle behind) :
      Attempts platform (address :: tried) world behind
  | nodelay {socket : Socket} {tried : List SocketAddress} {world behind : World}
      (later : Attempts platform tried (socket.setNodelay world).2 behind) :
      Attempts platform tried world behind

theorem Attempts.append {platform : Platform} {tried more : List SocketAddress}
    {world middle behind : World} (first : platform.Attempts tried world middle)
    (second : platform.Attempts more middle behind) :
    platform.Attempts (tried ++ more) world behind := by
  induction first with
  | done => exact second
  | looked later ih => exact .looked (ih second)
  | lookup run later ih => exact .lookup run (ih second)
  | connect run later ih => exact .connect run (ih second)
  | nodelay later ih => exact .nodelay (ih second)

section
variable {platform : Platform} {options : DialOptions} {world behind : World}

theorem addressesOf_run {point : String} {destination : Destination}
    (parsed : Destination.parse point = .ok destination) (world : World) :
    platform.addressesOf point world =
      platform.lookup destination.host destination.port world := by
  unfold addressesOf
  rw [parsed]
  rfl

/-- The socket has come from the last attempt to connect, which was made to the address. -/
def Connected (platform : Platform) (address : SocketAddress) (socket : Socket) (behind : World) :
    Prop :=
  ∃ limit before after, platform.connect address limit before = (.ok (.ok socket), after) ∧
    (behind = after ∨ behind = (socket.setNodelay after).2)

section
variable {answer : String → UInt16 → Except Abort (List SocketAddress)}
  {accepts : SocketAddress → Prop} {patience : Duration} {steady : Nat → World → Prop}
  {point : String} {points : List String} {destination : Destination} {steps : Nat}

/-- The addresses of a contact point are those that the answer tells, and the dial starts. -/
theorem Unexpired.starts {addresses : List SocketAddress}
    (unexpired : platform.Unexpired options patience (point :: points) world)
    (parsed : Destination.parse point = .ok destination)
    (found : platform.lookup destination.host destination.port world = (.ok addresses, behind)) :
    ∃ started, options.started? behind.now = some started ∧
      platform.InTime started patience addresses (behind.looked .starts options) := by
  apply unexpired.1 addresses behind
  rw [addressesOf_run parsed]
  exact found

/-- What an opening comes to: the addresses that are tried, and how it ends. -/
inductive Opened (platform : Platform) (accepts : SocketAddress → Prop)
    (sources : List (String × SocketAddress)) :
    List SocketAddress → Except Abort Connection → World → Prop
  | reached {passed rest : List (String × SocketAddress)} {point : String}
      {address : SocketAddress} {destination : Destination} {socket : Socket} {behind : World}
      (split : sources = passed ++ (point, address) :: rest)
      (refuses : ∀ source ∈ passed, ¬ accepts source.2) (accepted : accepts address)
      (parsed : Destination.parse point = .ok destination)
      (connected : platform.Connected address socket behind) :
      Opened platform accepts sources (passed.map Prod.snd ++ [address])
        (.ok ⟨.plain (.direct socket), destination.authority⟩) behind
  | refused {error : Error} {behind : World} (refuses : ∀ source ∈ sources, ¬ accepts source.2) :
      Opened platform accepts sources (sources.map Prod.snd) (.error (.failed error)) behind

private theorem map_snd_tagged (point : String) (addresses : List SocketAddress) :
    (addresses.map (point, ·)).map Prod.snd = addresses := by
  rw [List.map_map]
  exact List.map_id addresses

/-- The addresses of a contact point of which none accepts stand in front. -/
theorem Opened.onward {addresses : List SocketAddress} {sources : List (String × SocketAddress)}
    {tried : List SocketAddress} {result : Except Abort Connection} (point : String)
    (refuses : ∀ address ∈ addresses, ¬ accepts address)
    (opened : Opened platform accepts sources tried result behind) :
    Opened platform accepts (addresses.map (point, ·) ++ sources) (addresses ++ tried) result
      behind := by
  have front : ∀ source ∈ addresses.map (point, ·), ¬ accepts source.2 := by
    simpa using refuses
  have same := map_snd_tagged point addresses
  cases opened with
  | @reached passed rest source address destination socket behind split others accepted parsed
      connected =>
      have whole : addresses.map (point, ·) ++ sources =
          (addresses.map (point, ·) ++ passed) ++ (source, address) :: rest := by
        rw [split, List.append_assoc]
      have opened := Opened.reached whole (List.forall_mem_append.mpr ⟨front, others⟩) accepted
        parsed connected
      rw [List.map_append, same, List.append_assoc] at opened
      exact opened
  | refused others =>
      have tried : addresses ++ sources.map Prod.snd =
          (addresses.map (point, ·) ++ sources).map Prod.snd := by rw [List.map_append, same]
      rw [tried]
      exact .refused (List.forall_mem_append.mpr ⟨front, others⟩)

end

section
variable {among : World → Prop}

end

end

end Platform

end ProxyDial
