import ProxyDial.Proofs.Dial.Opened
import ProxyDial.Proofs.Dns.Exchange

set_option autoImplicit false

/-! The answer of a lookup through a proxy. It is told by the exchanges with the nameserver, one for
each family of addresses, until one of them ends the lookup. -/

namespace ProxyDial.ProxiedResolver
open Text Dns

/-- The exchanges about some families, in their order. The next family is asked for exactly if the
exchange before it lets the lookup go on. -/
inductive Exchanges (talk : Talk) (name : Name) (behind : World) :
    List RecordType → List Outcome → Bytes → Bytes → Prop
  | done : Exchanges talk name behind [] [] [] []
  | ended {type : RecordType} {types : List RecordType} {id : UInt16} {outcome : Outcome}
      {packets replies : Bytes}
      (exchange : Exchange talk ⟨name, type⟩ id behind outcome packets replies)
      (ends : outcome.goesOn = false) :
      Exchanges talk name behind (type :: types) [outcome] packets replies
  | next {type : RecordType} {types : List RecordType} {id : UInt16} {outcome : Outcome}
      {outcomes : List Outcome} {packets replies more further : Bytes}
      (exchange : Exchange talk ⟨name, type⟩ id behind outcome packets replies)
      (goesOn : outcome.goesOn = true)
      (others : Exchanges talk name behind types outcomes more further) :
      Exchanges talk name behind (type :: types) (outcome :: outcomes) (packets ++ more)
        (replies ++ further)

/-- To close the connection changes nothing about what has come of the exchanges. -/
theorem Exchanges.of_closed {talk : Talk} {name : Name} {world behind : World}
    {types : List RecordType} {outcomes : List Outcome} {packets replies : Bytes} {link : Link}
    (exchanges : Exchanges talk name world types outcomes packets replies)
    (watch : behind.watch = world.watch) (here : world.links[talk.socket.id]? = some link)
    (there : behind.links[talk.socket.id]? = some { link with isOpen := false }) :
    Exchanges talk name behind types outcomes packets replies := by
  induction exchanges with
  | done => exact .done
  | ended exchange ends => exact .ended (exchange.of_closed watch here there) ends
  | next exchange goesOn others ih => exact .next (exchange.of_goesOn goesOn behind) goesOn ih

/-- What is told when every family has been asked for. -/
def conclusion : Option Error → List IpAddress → Except Abort (List IpAddress)
  | some error, [] => .error (.failed error)
  | _, addresses => .ok addresses

/-- What comes of exchanges, with the addresses and the first failure from before. -/
structure Collects (host : String) (found : List IpAddress) (failed : Option Error)
    (outcomes : List Outcome) (result : Except Abort (List IpAddress)) : Prop where
  ended : ∀ outcome ∈ outcomes, outcome.goesOn = false →
    ∃ error, outcome.error? host = some error ∧ result = .error (.failed error)
  asked : (∀ outcome ∈ outcomes, outcome.goesOn = true) →
    result = conclusion (failed.or (outcomes.findSome? (·.error? host)))
      (found ++ outcomes.flatMap Outcome.addresses)

namespace Collects

variable {host : String} {found : List IpAddress} {failed : Option Error} {outcome : Outcome}
  {outcomes : List Outcome} {result : Except Abort (List IpAddress)}

theorem nil : Collects host found failed [] (conclusion failed found) where
  ended := nofun
  asked _ := by simp

theorem cons (goesOn : outcome.goesOn = true)
    (others : Collects host (found ++ outcome.addresses) (failed.or (outcome.error? host)) outcomes
      result) : Collects host found failed (outcome :: outcomes) result where
  ended := by
    intro other member ends
    rcases List.mem_cons.mp member with same | later
    · rw [same, goesOn] at ends
      cases ends
    · exact others.ended other later ends
  asked := by
    intro all
    have first : (outcome :: outcomes).findSome? (·.error? host) =
        (outcome.error? host).or (outcomes.findSome? (·.error? host)) := by
      rw [List.findSome?_cons]
      cases outcome.error? host <;> rfl
    rw [others.asked fun other member => all other (List.mem_cons_of_mem _ member), first,
      List.flatMap_cons, Option.or_assoc, List.append_assoc]

theorem single {error : Error} (ends : outcome.goesOn = false)
    (tells : outcome.error? host = some error) :
    Collects host found failed [outcome] (.error (.failed error)) where
  ended := by
    intro other member _
    rw [List.mem_singleton.mp member]
    exact ⟨error, tells, rfl⟩
  asked := by
    intro all
    rw [all outcome (List.mem_singleton_self _)] at ends
    cases ends

end Collects

/-- What a lookup answers after its exchanges. -/
structure Answers (host : String) (port : UInt16) (outcomes : List Outcome)
    (result : Except Abort (List SocketAddress)) : Prop where
  /-- Addresses are returned exactly if no exchange has ended the lookup and there are any. -/
  ok_iff : ∀ addresses, result = .ok addresses ↔
    (∀ outcome ∈ outcomes, outcome.goesOn = true) ∧ addresses ≠ [] ∧
      addresses = (outcomes.flatMap Outcome.addresses).map (SocketAddress.ofIp · port)
  ended : ∀ outcome ∈ outcomes, outcome.goesOn = false →
    ∃ error, outcome.error? host = some error ∧ result = .error (.failed error)
  /-- Without any address, the first failure is told. -/
  empty : (∀ outcome ∈ outcomes, outcome.goesOn = true) →
    outcomes.flatMap Outcome.addresses = [] →
      result = .error (.failed
        ((outcomes.findSome? (·.error? host)).getD (.resolve (.nothingFound host))))

/-- The outcomes of the exchanges leave no choice. -/
theorem Answers.unique {host : String} {port : UInt16} {outcomes : List Outcome}
    {result other : Except Abort (List SocketAddress)} (one : Answers host port outcomes result)
    (two : Answers host port outcomes other) : result = other := by
  by_cases all : ∀ outcome ∈ outcomes, outcome.goesOn = true
  · by_cases empty : outcomes.flatMap Outcome.addresses = []
    · rw [one.empty all empty, two.empty all empty]
    · have some : (outcomes.flatMap Outcome.addresses).map (SocketAddress.ofIp · port) ≠ [] :=
        fun none => empty (List.map_eq_nil_iff.mp none)
      rw [(one.ok_iff _).mpr ⟨all, some, rfl⟩, (two.ok_iff _).mpr ⟨all, some, rfl⟩]
  · obtain ⟨outcome, member, ends⟩ : ∃ outcome ∈ outcomes, outcome.goesOn = false := by
      simpa using all
    obtain ⟨error, tells, fails⟩ := one.ended outcome member ends
    obtain ⟨error', tells', fails'⟩ := two.ended outcome member ends
    rw [tells] at tells'
    cases tells'
    rw [fails, fails']

/-- What a lookup makes of the addresses that it has collected. -/
def returned (host : String) (port : UInt16) :
    Except Abort (List IpAddress) → Except Abort (List SocketAddress)
  | .error abort => .error abort
  | .ok [] => .error (.failed (.resolve (.nothingFound host)))
  | .ok addresses => .ok (addresses.map (SocketAddress.ofIp · port))

namespace Collects

variable {host : String} {outcomes : List Outcome} {result : Except Abort (List IpAddress)}

theorem returned_of_none (collects : Collects host [] none outcomes result) (port : UInt16)
    (all : ∀ outcome ∈ outcomes, outcome.goesOn = true)
    (empty : outcomes.flatMap Outcome.addresses = []) :
    returned host port result = .error (.failed
      ((outcomes.findSome? (·.error? host)).getD (.resolve (.nothingFound host)))) := by
  rw [collects.asked all, Option.none_or, List.nil_append, empty]
  cases outcomes.findSome? (·.error? host) <;> rfl

theorem returned_of_some (collects : Collects host [] none outcomes result) (port : UInt16)
    (all : ∀ outcome ∈ outcomes, outcome.goesOn = true)
    (notEmpty : outcomes.flatMap Outcome.addresses ≠ []) :
    returned host port result =
      .ok ((outcomes.flatMap Outcome.addresses).map (SocketAddress.ofIp · port)) := by
  rw [collects.asked all, Option.none_or, List.nil_append]
  cases found : outcomes.flatMap Outcome.addresses with
  | nil => exact absurd found notEmpty
  | cons address more => cases outcomes.findSome? (·.error? host) <;> rfl

theorem returned_of_ended (collects : Collects host [] none outcomes result) (port : UInt16)
    {outcome : Outcome} (member : outcome ∈ outcomes) (ends : outcome.goesOn = false) :
    ∃ error, outcome.error? host = some error ∧
      returned host port result = .error (.failed error) := by
  obtain ⟨error, tells, fails⟩ := collects.ended outcome member ends
  rw [fails]
  exact ⟨error, tells, rfl⟩

theorem answers (collects : Collects host [] none outcomes result) (port : UInt16) :
    Answers host port outcomes (returned host port result) where
  ended _ := collects.returned_of_ended port
  empty := collects.returned_of_none port
  ok_iff := by
    intro addresses
    constructor
    · intro returns
      have all : ∀ outcome ∈ outcomes, outcome.goesOn = true := by
        intro outcome member
        cases goesOn : outcome.goesOn with
        | true => rfl
        | false =>
            obtain ⟨error, -, fails⟩ := collects.returned_of_ended port member goesOn
            rw [fails] at returns
            cases returns
      have notEmpty : outcomes.flatMap Outcome.addresses ≠ [] := by
        intro empty
        rw [collects.returned_of_none port all empty] at returns
        cases returns
      rw [collects.returned_of_some port all notEmpty] at returns
      cases returns
      exact ⟨all, fun empty => notEmpty (List.map_eq_nil_iff.mp empty), rfl⟩
    · rintro ⟨all, some, rfl⟩
      apply collects.returned_of_some port all
      intro empty
      rw [empty] at some
      exact some rfl

end Collects

section
variable {peer : Peer} {script : Bytes → Bytes} {codec : Bytes → Except String Message}
  {options : DialOptions} {start : World → Prop} {host : String} {name : Name}

/-- Behind an answer that lets the lookup go on, what comes of the other families is added to it. -/
private theorem conducts_on {outcome : Outcome} {found : List IpAddress} {failed : Option Error}
    {type : RecordType} {types : List RecordType} {connection next : Connection} {id : UInt16}
    {packets replies : Bytes} {rest : Dial (List IpAddress)} (goesOn : outcome.goesOn = true)
    (same : next.socket = connection.socket)
    (others : next.Conducts peer script codec (fun _ => True) rest
      fun result more further _ behind => ∃ outcomes,
        Exchanges ⟨next.socket, options, codec⟩ name behind types outcomes more further ∧
        Collects host (found ++ outcome.addresses) (failed.or (outcome.error? host)) outcomes
          result) :
    next.Conducts peer script codec
      (fun world => Exchange ⟨connection.socket, options, codec⟩ ⟨name, type⟩ id world outcome
        packets replies) rest
      fun result more further _ behind => ∃ outcomes,
        Exchanges ⟨connection.socket, options, codec⟩ name behind (type :: types) outcomes
          (packets ++ more) (replies ++ further) ∧
        Collects host found failed outcomes result := by
  -- Whatever happens behind it, the answer has been given.
  apply Dial.conducts_known fun _ exchange => exchange.of_goesOn goesOn
  intro exchange
  refine others.mono ?_
  rintro result more further last behind ⟨outcomes, others, collects⟩
  rw [same] at others
  exact ⟨_, .next (exchange behind) goesOn others, collects.cons goesOn⟩

theorem queryFamilies_conducts (delivers : peer.Delivers script)
    (encodes : Name.ofHost host = .ok name) (found : List IpAddress) (failed : Option Error)
    (types : List RecordType) (connection : Connection) :
    connection.Conducts peer script codec start
      (queryFamilies host options found failed types connection)
      fun result packets replies _ behind => ∃ outcomes,
        Exchanges ⟨connection.socket, options, codec⟩ name behind types outcomes packets replies ∧
        Collects host found failed outcomes result := by
  induction types generalizing found failed connection start with
  | nil =>
      unfold queryFamilies
      cases failed with
      | none => exact Dial.conducts_pure fun _ _ => ⟨[], .done, .nil⟩
      | some error =>
          cases found with
          | nil => exact Dial.conducts_fail fun _ _ => ⟨[], .done, .nil⟩
          | cons address found => exact Dial.conducts_pure fun _ _ => ⟨[], .done, .nil⟩
  | cons type types ih =>
      unfold queryFamilies
      apply Dial.conducts_bind
        (Dial.conducts_numbered (exchange_conducts delivers encodes type connection))
      -- The exchange itself fails only for want of a whole reply.
      · rintro abort packets replies left behind ⟨id, outcome, exchange, same⟩
        cases outcome with
        | broken error =>
            cases same
            exact ⟨_, .ended exchange rfl, .single rfl rfl⟩
        | found addresses => cases same
        | failed code => cases same
        | noSuchName => cases same
        | unusable problem => cases same
      · rintro ⟨answer, next⟩ packets replies left same
        apply Dial.conducts_exists
        intro id
        apply Dial.conducts_exists
        intro outcome
        apply Dial.conducts_assume
        intro handedOn
        cases outcome with
        | found addresses =>
            cases handedOn
            apply conducts_on rfl same
            rw [Outcome.error?, Option.or_none]
            exact ih (found ++ addresses) failed next
        | failed code =>
            cases handedOn
            apply conducts_on rfl same
            -- This failure is the first one only where there is none from before.
            rw [Outcome.addresses, List.append_nil]
            exact ih found _ next
        | noSuchName =>
            cases handedOn
            apply Dial.conducts_fail
            intro world exchange
            rw [List.append_nil, List.append_nil]
            exact ⟨_, .ended exchange rfl, .single rfl rfl⟩
        | unusable problem =>
            cases handedOn
            apply Dial.conducts_fail
            intro world exchange
            rw [List.append_nil, List.append_nil]
            exact ⟨_, .ended exchange rfl, .single rfl rfl⟩
        | broken error => cases handedOn

theorem ask_ensures (delivers : peer.Delivers script) (encodes : Name.ofHost host = .ok name)
    (port : UInt16) {connection : Connection} {said got : Bytes} {world : World}
    (tunnels : connection.Tunnels peer script said got world) :
    (ask host port options connection).Ensures world fun result behind =>
      ∃ packets replies outcomes link,
        Exchanges ⟨connection.socket, options, world.codec⟩ name behind [.a, .aaaa] outcomes packets
          replies ∧
        Answers host port outcomes result ∧
        behind.links[connection.socket.id]? = some link ∧ link.sent = said ++ packets ∧
        got ++ replies <+: script (said ++ packets) := by
  apply Dial.ensures_attempt
  have conducts : connection.Conducts peer script world.codec (fun _ => True)
      (queryFamilies host options [] none [.a, .aaaa] connection) _ :=
    queryFamilies_conducts delivers encodes [] none [.a, .aaaa] connection
  refine (conducts world said got rfl trivial tunnels).mono ?_
  rintro result behind ⟨packets, replies, left, ⟨outcomes, exchanges, collects⟩, same, tunnels, -⟩
  obtain ⟨plain, ⟨link, here, -, -, sent, -⟩, inScript⟩ := tunnels
  rw [same] at here
  have answers := collects.answers port
  have heard : got ++ replies <+: script (said ++ packets) :=
    (List.prefix_append _ _).trans inScript
  obtain ⟨closed, run, there, later⟩ := Socket.update_run ({ · with isOpen := false }) here
  have closing := exchanges.of_closed later.watch here there
  cases result with
  | ok addresses =>
      apply Dial.ensures_bind_of_eq run
      cases addresses with
      | nil => exact ⟨packets, replies, outcomes, _, closing, answers, there, sent, heard⟩
      | cons address more =>
          exact ⟨packets, replies, outcomes, _, closing, answers, there, sent, heard⟩
  | error abort =>
      cases abort with
      | failed error =>
          apply Dial.ensures_bind_of_eq run
          exact ⟨packets, replies, outcomes, _, closing, answers, there, sent, heard⟩
      | clockOverflow =>
          exact ⟨packets, replies, outcomes, link, exchanges, answers, here, sent, heard⟩

end

/-- The tunnel to the nameserver that a lookup of a name opens in a world whose peers have scripts.
-/
structure Opening (resolver : ProxiedResolver) (world : World) where
  options : DialOptions
  connection : Connection
  opened : World
  script : Peer → Bytes → Bytes
  starts : resolver.dialer.options.started? world.now = some options
  opens : (resolver.dialer.withOptions options).dialAddress (toString resolver.nameserver)
    (world.looked .starts resolver.dialer.options) = (.ok connection, opened)
  scripted : world.network.Scripted script

/-- What the exchanges over the tunnel tell about the end of a lookup: the queries are all that is
sent, the replies stand next in the script of the peer, and the answer follows from both. Where the
exchanges break off, the peer or the clock has ended them. -/
def Opening.Tells {resolver : ProxiedResolver} {world : World} (opening : resolver.Opening world)
    (host : String) (name : Name) (port : UInt16) (result : Except Abort (List SocketAddress))
    (behind : World) : Prop :=
  ∃ peer said got packets replies outcomes link,
    opening.connection.Tunnels peer (opening.script peer) said got opening.opened ∧
    Exchanges ⟨opening.connection.socket, opening.options, opening.opened.codec⟩ name behind
      [.a, .aaaa] outcomes packets replies ∧
    Answers host port outcomes result ∧
    behind.links[opening.connection.socket.id]? = some link ∧ link.sent = said ++ packets ∧
    got ++ replies <+: opening.script peer (said ++ packets)

/-- A host that is an address is its own answer, and nothing happens in the world. The answer about
any other host follows from its exchanges with the nameserver. -/
theorem lookup_told_by_exchanges (resolver : ProxiedResolver) (host : String) (port : UInt16)
    (world : World) :
    (∀ ip, IpAddress.ofString? host = some ip →
      resolver.lookup host port world = (.ok [.ofIp ip port], world)) ∧
    ∀ (opening : resolver.Opening world) (name : Name), IpAddress.ofString? host = none →
      Name.ofHost host = .ok name →
      (resolver.lookup host port).Ensures world (opening.Tells host name port) := by
  constructor
  · intro ip isAddress
    unfold lookup
    rw [isAddress]
    rfl
  · intro opening name isName encodes
    obtain ⟨options, connection, opened, script, starts, opens, scripted⟩ := opening
    rw [resolver.lookup_eq_ask port isName]
    apply ensures_started
    · intro overflow
      rw [starts] at overflow
      cases overflow
    · intro started same
      rw [starts] at same
      cases same
      have opensTunnel := (resolver.dialer.withOptions options).dialAddress_opensTunnel
        (toString resolver.nameserver) (world.looked .starts resolver.dialer.options) script
        scripted
      obtain ⟨peer, delivers, said, got, tunnels⟩ := opensTunnel.of_run opens connection rfl
      apply Dial.ensures_bind_of_eq opens
      refine (ask_ensures delivers encodes port tunnels).mono ?_
      rintro result behind ⟨packets, replies, outcomes, link, told⟩
      exact ⟨peer, said, got, packets, replies, outcomes, link, tunnels, told⟩

def tunneledResolver : ProxiedResolver :=
  ⟨⟨.v4 ⟨10, 0, 0, 53⟩, 53, 0⟩, .ofProxy ⟨.socks5, "10.0.0.1", 1080, none⟩⟩

/-- The proxy grants the tunnel; the nameserver has one address of the first family, and fails for
the second one. -/
def oneFamilyStream : Bytes :=
  [5, 0, 5, 0, 0, 1, 0, 0, 0, 0, 0, 0] ++
    frame [0, 0, 0x81, 0x80, 0, 0, 0, 1, 0, 0, 0, 0,
      0, 0, 1, 0, 1, 0, 0, 0, 60, 0, 4, 10, 0, 0, 5] ++
    frame [0, 0, 0x81, 0x82, 0, 0, 0, 0, 0, 0, 0, 0]

def oneFamilyWorld : World :=
  { World.isolated with
    network := fun _ _ => .accepted ⟨0⟩ (.ofStream oneFamilyStream (.closed ⟨0⟩)) }

/-- A failure for one family does not take away what the other one has. -/
theorem lookup_keeps_addresses_of_one_family :
    ∃ opening : tunneledResolver.Opening oneFamilyWorld, IpAddress.ofString? "db" = none ∧
      Name.ofHost "db" = .ok ⟨[utf8 "db"]⟩ ∧
      (tunneledResolver.lookup "db" 9042).Ensures oneFamilyWorld fun result behind =>
        result = .ok [⟨.v4 ⟨10, 0, 0, 5⟩, 9042, 0⟩] ∧
          opening.Tells "db" ⟨[utf8 "db"]⟩ 9042 result behind := by
  have isName : IpAddress.ofString? "db" = none := by decide +kernel
  have encodes : Name.ofHost "db" = .ok ⟨[utf8 "db"]⟩ := by decide +kernel
  have starts : tunneledResolver.dialer.options.started? oneFamilyWorld.now =
      some (DialOptions.default.withDeadline ⟨30 * Duration.perSecond⟩) := by
    decide +kernel
  have reached : ((tunneledResolver.dialer.withOptions
      (DialOptions.default.withDeadline ⟨30 * Duration.perSecond⟩)).dialAddress
        (toString tunneledResolver.nameserver)
        (oneFamilyWorld.looked .starts tunneledResolver.dialer.options)).1.isOk = true := by
    decide +kernel
  have returns : (tunneledResolver.lookup "db" 9042 oneFamilyWorld).1.toOption =
      some [⟨.v4 ⟨10, 0, 0, 5⟩, 9042, 0⟩] := by
    decide +kernel
  have scripted : oneFamilyWorld.network.Scripted fun _ _ => oneFamilyStream := by
    rintro count address delay peer ⟨⟩
    exact (Peer.ofStream_plays oneFamilyStream).delivers
  obtain ⟨connection, opened, opens⟩ := Dial.run_of_isOk reached
  let opening : tunneledResolver.Opening oneFamilyWorld :=
    ⟨_, connection, opened, _, starts, opens, scripted⟩
  have tells := (lookup_told_by_exchanges tunneledResolver "db" 9042 oneFamilyWorld).2 opening _
    isName encodes
  refine ⟨opening, isName, encodes, ?_⟩
  cases run : tunneledResolver.lookup "db" 9042 oneFamilyWorld with
  | mk result behind =>
      rw [run] at returns
      apply Dial.ensures_of_eq run
      cases result with
      | error abort => cases returns
      | ok addresses =>
          cases returns
          exact ⟨rfl, tells.of_run run⟩

end ProxyDial.ProxiedResolver
