import ProxyDial.Proofs.Address.Marks
import ProxyDial.Proofs.Destination.Reread
import ProxyDial.Proofs.Dial.Opened
import ProxyDial.Proofs.Net.Unasked

set_option autoImplicit false

/-! What is looked up without the network. The host of a proxy that is an IP address is its own
answer. A resolver that answers without a connection would answer the same at any time, and
meanwhile nothing happens on the network. -/

namespace ProxyDial
open Text

/-- Time has passed. The clock may have been looked at, and custom resolvers may have been asked,
but there is nothing new on the network. -/
structure World.Idles (world behind : World) : Prop where
  links : behind.links = world.links
  attempts : behind.attempts = world.attempts
  names : behind.names = world.names
  installed : behind.installed = world.installed
  past : world.now.nanoseconds ≤ behind.now.nanoseconds

namespace World.Idles

variable {world middle behind : World}

theorem refl (world : World) : world.Idles world := ⟨rfl, rfl, rfl, rfl, Nat.le_refl _⟩

theorem trans (first : world.Idles middle) (second : middle.Idles behind) : world.Idles behind where
  links := second.links.trans first.links
  attempts := second.attempts.trans first.attempts
  names := second.names.trans first.names
  installed := second.installed.trans first.installed
  past := Nat.le_trans first.past second.past

theorem wait (world : World) (duration : Duration) : world.Idles (world.wait duration) :=
  ⟨rfl, rfl, rfl, rfl, Nat.le_add_right _ _⟩

theorem looked (world : World) (kind : Ask.Kind) (options : DialOptions) :
    world.Idles (world.looked kind options) :=
  ⟨rfl, rfl, rfl, rfl, Nat.le_add_right _ _⟩

end World.Idles

namespace Dial

variable {α β : Type} {world : World}

/-- However long the world has idled, the dial comes to this result, and the world idles on. -/
def ComesTo (dial : Dial α) (result : Except Abort α) (world : World) : Prop :=
  ∀ later, world.Idles later → ∃ behind, dial later = (result, behind) ∧ later.Idles behind

theorem comesTo_pure (value : α) : (pure value : Dial α).ComesTo (.ok value) world :=
  fun later _ => ⟨later, rfl, .refl later⟩

theorem comesTo_fail (error : Error) :
    (fail error : Dial α).ComesTo (.error (.failed error)) world :=
  fun later _ => ⟨later, rfl, .refl later⟩

theorem comesTo_awaitLookup (host : String) : (awaitLookup host).ComesTo (.ok ()) world :=
  fun later _ => ⟨_, rfl, .wait later _⟩

theorem ComesTo.bind {first : Dial α} {value : α} {next : α → Dial β} {result : Except Abort β}
    (comes : first.ComesTo (.ok value) world) (goesOn : (next value).ComesTo result world) :
    (first >>= next).ComesTo result world := by
  intro later idles
  obtain ⟨middle, run, still⟩ := comes later idles
  obtain ⟨behind, last, further⟩ := goesOn middle (idles.trans still)
  refine ⟨behind, ?_, still.trans further⟩
  rw [bind_run, run]
  exact last

/-- Behind an error nothing goes on. -/
theorem ComesTo.stops {first : Dial α} {abort : Abort}
    (comes : first.ComesTo (.error abort) world) (next : α → Dial β) :
    (first >>= next).ComesTo (.error abort) world := by
  intro later idles
  obtain ⟨behind, run, still⟩ := comes later idles
  exact ⟨behind, bind_error_run run next, still⟩

end Dial

/-- A host that is the text of an IP address. One with colons may have its brackets already. -/
inductive IsLiteral (host : String) : Prop
  | bare {ip : IpAddress} (read : IpAddress.ofString? host = some ip)
  | inBrackets {inner : List Char} {ip : Ipv6} (written : host.toList = '[' :: inner ++ [']'])
      (read : Ipv6.ofChars? inner = some ip)

namespace SocketAddress

variable {inner : List Char} {ip : Ipv6}

theorem ofChars?_brackets (read : Ipv6.ofChars? inner = some ip) (port : UInt16) :
    ofChars? ('[' :: inner ++ [']'] ++ ':' :: decimalDigits port.toNat) =
      some ⟨.v6 ip, port, 0⟩ := by
  have isText := Ipv6.isText_of_ofChars? read
  have noClosing : ']' ∉ inner := isText.not_mem (by decide)
  have whole : '[' :: inner ++ [']'] ++ ':' :: decimalDigits port.toNat =
      '[' :: (inner ++ ']' :: ':' :: decimalDigits port.toNat) := by simp
  have inside : ∀ c ∈ inner, decide (c ≠ ']') = true := by
    intro c member
    rw [decide_eq_true_eq]
    rintro rfl
    exact noClosing member
  obtain ⟨taken, dropped⟩ := span_of_stops inside
    (.cons (by decide) : Stops (fun c => decide (c ≠ ']')) (']' :: ':' :: decimalDigits port.toNat))
  have unscoped : readScoped? inner = some (ip, 0) := by
    unfold readScoped? cutAt?
    rw [if_neg (isText.not_mem (by decide)), read]
    rfl
  have digits : readPort? (decimalDigits port.toNat) = some port := by
    unfold readPort?
    rw [readDigits?_decimalDigits port.toNat_lt]
    exact congrArg some port.ofNat_toNat
  rw [whole]
  unfold ofChars?
  simp only [taken, dropped, unscoped, digits]
  rfl

end SocketAddress

theorem systemAddresses_literal {host : List Char} {ip : IpAddress}
    (read : IpAddress.ofChars? host = some ip) : systemAddresses host = pure (.ok [ip]) := by
  have noNul : '\x00' ∉ host := by
    rcases IpAddress.marks_of_ofChars? read with marks | isText
    · exact fun member => absurd (marks _ member) (by decide)
    · exact isText.not_mem (by decide)
  unfold systemAddresses
  rw [if_neg noNul, read]

section
variable {host : String} {port : UInt16}

private theorem addressesOf_brackets {inner : List Char} {ip : Ipv6}
    (written : (joinHostPort host port).toList =
      '[' :: inner ++ [']'] ++ ':' :: decimalDigits port.toNat)
    (read : Ipv6.ofChars? inner = some ip) :
    addressesOf (joinHostPort host port) = pure (.ok [⟨.v6 ip, port, 0⟩]) := by
  unfold addressesOf
  dsimp only
  rw [written, SocketAddress.ofChars?_brackets read]

/-- Without a colon in the host, what is cut off behind the last colon is the port. -/
private theorem addressesOf_bare {ip : IpAddress}
    (read : IpAddress.ofChars? host.toList = some ip) (noColon : ':' ∉ host.toList) :
    ∃ address, addressesOf (joinHostPort host port) = pure (.ok [address]) := by
  have written : (joinHostPort host port).toList =
      host.toList ++ ':' :: decimalDigits port.toNat :=
    @Destination.toList_authority_of_bare ⟨host, port⟩ noColon
  have cut : cutAtLast? ':' (host.toList ++ ':' :: decimalDigits port.toNat) =
      some (host.toList, decimalDigits port.toNat) :=
    cutAtLast?_append_cons _ (Authority.not_mem_digits (by decide) port)
  unfold addressesOf
  dsimp only
  rw [written, cut]
  cases SocketAddress.ofChars? (host.toList ++ ':' :: decimalDigits port.toNat) with
  | some address => exact ⟨address, rfl⟩
  | none =>
      refine ⟨.ofIp ip port, ?_⟩
      simp only [readUInt16?_decimalDigits, systemAddresses_literal read, pure_bind]
      rfl

/-- The address of a literal host with a port is found without asking anybody. -/
theorem addressesOf_literal (literal : IsLiteral host) (port : UInt16) :
    ∃ address, addressesOf (joinHostPort host port) = pure (.ok [address]) := by
  cases literal with
  | @inBrackets inner ip written read =>
      have brackets : (joinHostPort host port).toList =
          '[' :: inner ++ [']'] ++ ':' :: decimalDigits port.toNat := by
        unfold joinHostPort
        rw [if_neg (by simp [written])]
        simp [written, decimalDigits]
      exact ⟨_, addressesOf_brackets brackets read⟩
  | @bare ip read =>
      rcases IpAddress.ofChars?_cases read with ⟨v4, found, -⟩ | ⟨v6, found, -⟩
      · have marks := (Ipv4.isMark_of_ofChars? found).2
        exact addressesOf_bare read fun colon => absurd (marks ':' colon) (by decide)
      · have isText := Ipv6.isText_of_ofChars? found
        have first : host.toList.head? ≠ some '[' :=
          fun opens => isText.not_mem (by decide) (List.mem_of_head? opens)
        have written : (joinHostPort host port).toList =
            '[' :: host.toList ++ [']'] ++ ':' :: decimalDigits port.toNat :=
          @Destination.toList_authority_of_colon ⟨host, port⟩ isText.colon first
        exact ⟨_, addressesOf_brackets written found⟩

end

namespace Resolver

/-- The resolver tells addresses of the host, and makes and changes no connection for that. -/
def AnswersOffline (resolver : Resolver) (host : String) (port : UInt16) (world : World) : Prop :=
  (resolver.lookup host port).Ensures world fun result behind =>
    behind.links = world.links ∧ ∃ addresses, result = .ok addresses ∧ addresses ≠ []

end Resolver

namespace ProxiedResolver

theorem ask_keeps (host : String) (port : UInt16) (options : DialOptions)
    (connection : Connection) :
    (ask host port options connection).Keeps connection.socket fun _ => () := by
  have hides : Link.HidesProtection fun _ => () :=
    ⟨⟨⟨fun _ _ => rfl, fun _ _ => rfl, fun _ _ => rfl⟩, fun _ _ => rfl⟩, fun _ _ => rfl⟩
  have queries := queryFamilies_keeps hides host options [] none [.a, .aaaa] connection
  apply Dial.keeps_bind (Dial.keeps_attempt queries)
  intro result
  apply Dial.keeps_bind (connection.socket.update_keeps ({ · with isOpen := false }) fun _ => rfl)
  intro done
  apply Dial.keeps_bind (.of_still (Dial.still_ofExcept result))
  intro addresses
  cases addresses with
  | nil => exact Dial.keeps_fail
  | cons address rest => exact Dial.keeps_pure

/-- Where a name has been looked up through the proxy, there is a connection that was not there
before. -/
theorem lookup_connects (resolver : ProxiedResolver) {host : String} (port : UInt16)
    (isName : IpAddress.ofString? host = none) (world : World) :
    (resolver.lookup host port).Ensures world fun result behind =>
      ∀ addresses, result = .ok addresses → behind.links ≠ world.links := by
  rw [resolver.lookup_eq_ask port isName]
  apply ensures_started
  · intro _
    exact nofun
  · intro started _
    apply Dial.ensures_bind
    refine ((resolver.dialer.withOptions started).dialAddress_accounts
      (toString resolver.nameserver) (world.looked .starts resolver.dialer.options)).mono ?_
    intro result opened accounted
    cases result with
    | error abort => exact nofun
    | ok connection =>
        obtain ⟨closed, link, newest, -⟩ := accounted.newest
        refine (ask_keeps host port started connection opened).mono ?_
        intro result behind kept addresses _ same
        obtain ⟨after, stays, -⟩ := newest.kept kept
        have same : behind.links = (world.looked .starts resolver.dialer.options).links := same
        have lengths := congrArg List.length (stays.links.symm.trans same)
        simp only [List.length_append, List.length_singleton] at lengths
        omega

end ProxiedResolver

namespace Resolver

variable {resolver : Resolver} {host : String} {port : UInt16} {world : World}

theorem systemAddresses_comesTo (host : List Char) (world : World) :
    ∃ outcome, (systemAddresses host).ComesTo (.ok outcome) world := by
  unfold systemAddresses
  split
  · exact ⟨_, Dial.comesTo_pure _⟩
  · cases IpAddress.ofChars? host with
    | some ip => exact ⟨_, Dial.comesTo_pure _⟩
    | none =>
        refine ⟨world.names (String.ofList host), (Dial.comesTo_awaitLookup _).bind ?_⟩
        intro later idles
        refine ⟨later, ?_, .refl later⟩
        rw [← idles.names]
        rfl

theorem systemLookup_comesTo (host : String) (port : UInt16) (world : World) :
    ∃ result, (systemLookup host port).ComesTo result world := by
  obtain ⟨outcome, comes⟩ := systemAddresses_comesTo host.toList world
  cases outcome with
  | error problem => exact ⟨_, comes.bind (Dial.comesTo_fail _)⟩
  | ok addresses =>
      cases addresses with
      | nil => exact ⟨_, comes.bind (Dial.comesTo_fail _)⟩
      | cons address rest => exact ⟨_, comes.bind (Dial.comesTo_pure _)⟩

/-- A resolver that answers without a connection would tell the same at any time, and leaves the
network alone. -/
theorem AnswersOffline.comesTo (offline : resolver.AnswersOffline host port world) :
    ∃ addresses, addresses ≠ [] ∧ (resolver.lookup host port).ComesTo (.ok addresses) world := by
  obtain ⟨links, addresses, found, filled⟩ := offline
  refine ⟨addresses, filled, ?_⟩
  cases resolver with
  | system =>
      obtain ⟨result, comes⟩ := systemLookup_comesTo host port world
      obtain ⟨behind, run, -⟩ := comes world (.refl world)
      have found : (systemLookup host port world).1 = .ok addresses := found
      rw [run] at found
      cases found
      exact comes
  | custom name answer =>
      have found : (Dial.ofExcept (answer host port) _).1 = .ok addresses := found
      cases told : answer host port with
      | error error =>
          rw [told] at found
          cases found
      | ok others =>
          rw [told] at found
          cases found
          have asks : Dial.ComesTo (modify fun world : World =>
              { world with asked := world.asked ++ [(host, port)] }) (.ok ()) world :=
            fun later _ => ⟨_, rfl, rfl, rfl, rfl, rfl, Nat.le_refl _⟩
          apply asks.bind
          apply (Dial.comesTo_awaitLookup host).bind
          rw [told]
          exact Dial.comesTo_pure _
  | proxied resolver =>
      cases isName : IpAddress.ofString? host with
      | none =>
          -- A name is asked for over a tunnel, which would be in the list of connections.
          have connects := resolver.lookup_connects port isName world addresses found
          exact absurd links connects
      | some ip =>
          unfold lookup ProxiedResolver.lookup at found ⊢
          rw [isName] at found ⊢
          cases found
          exact Dial.comesTo_pure _

end Resolver

end ProxyDial
