import ProxyDial.Proofs.Dns.Framed
import ProxyDial.Proofs.Net.HostKept
import ProxyDial.Proofs.Net.TunnelEnding

set_option autoImplicit false

/-! Replies of a nameserver that break off. Two lookups run side by side over tunnels of their own,
draw the same numbers and read messages alike. The second one's nameserver sends a part of the
replies that the first one gets. -/

namespace ProxyDial.ProxiedResolver
open Text Dns

/-- Sends a packet within the budget. -/
def tell (packet : Bytes) (options : DialOptions) (connection : Connection) : Dial Unit := do
  connection.setLimit (some (← Dial.budget options))
  Dial.orFail .ofFault (← connection.write packet)

/-- Reads the bytes of a message that stands behind its length. -/
def receiveMessage (options : DialOptions) (connection : Connection) :
    Dial (Bytes × Connection) := do
  let (length, connection) ← receive options 2 connection
  receive options ((length.getD 0 0).toNat * 256 + (length.getD 1 0).toNat) connection

theorem exchange_eq_tell (host : String) (type : RecordType) (options : DialOptions)
    (connection : Connection) : exchange host type options connection = (do
      let id ← Dial.drawNumber
      let query ← Dial.ofExcept (encodeQuery id host type)
      if query.length ≥ 65536 then .fail (.config (.queryTooLarge host))
      tell (frame query) options connection
      let (answer, connection) ← receiveMessage options connection
      return (decodeAnswers (← get).codec id host answer, connection)) := by
  simp only [exchange, tell, receiveMessage, bind_assoc]

section
variable {connection : Connection} {ending : Ending} {options : DialOptions} {world : World}

theorem tell_keepsHost (packet : Bytes) (options : DialOptions) (connection : Connection) :
    (tell packet options connection).KeepsHost := by
  unfold tell
  apply Dial.keepsHost_bind (Dial.keepsHost_budget options)
  intro left
  apply Dial.keepsHost_bind (connection.setLimit_keepsHost _)
  intro _
  apply Dial.keepsHost_bind (connection.write_keepsHost packet)
  intro outcome
  exact Dial.keepsHost_orFail _ outcome

theorem receive_keepsHost (options : DialOptions) (count : Nat) (connection : Connection) :
    (receive options count connection).KeepsHost := by
  induction count using Nat.strongRecOn generalizing connection with
  | ind count ih =>
      cases count with
      | zero =>
          rw [receive]
          exact Dial.keepsHost_pure
      | succ count =>
          rw [receive]
          apply Dial.keepsHost_bind (Dial.keepsHost_budget options)
          intro left
          apply Dial.keepsHost_bind (connection.setLimit_keepsHost _)
          intro _
          apply Dial.keepsHost_bind (connection.read_keepsHost _)
          rintro ⟨outcome, next⟩
          apply Dial.keepsHost_bind (Dial.keepsHost_orFail _ outcome)
          intro bytes
          cases bytes with
          | nil => exact Dial.keepsHost_fail
          | cons byte bytes =>
              apply Dial.keepsHost_bind (ih (count - bytes.length) (by omega) next)
              intro _
              exact Dial.keepsHost_pure

theorem tell_awaits {unread : Bytes} (awaits : connection.Awaits ending options unread world)
    (packet : Bytes) :
    (tell packet options connection).Ensures world fun result behind =>
      ending.Fails result ∨ result = .ok () ∧ connection.Awaits ending options unread behind := by
  apply awaits.ensures_say
  · intro error kind
    exact Or.inl ⟨error, rfl, kind⟩
  · intro behind awaits
    exact Dial.ensures_pure (Or.inr ⟨rfl, awaits⟩)

/-- Bytes that are wanted are taken off the tunnel if all of them come. -/
theorem receive_awaits {wanted unread : Bytes} {count : Nat} (size : wanted.length = count)
    (awaits : connection.Awaits ending options unread world)
    (start : unread <+: wanted ∨ wanted <+: unread) :
    (receive options count connection).Ensures world fun result behind =>
      ending.Fails result ∨ ∃ left rest, unread = wanted ++ rest ∧ result = .ok (wanted, left) ∧
        left.Awaits ending options rest behind := by
  induction count using Nat.strongRecOn generalizing wanted unread connection world with
  | ind count ih =>
      cases count with
      | zero =>
          have none : wanted = [] := List.eq_nil_of_length_eq_zero size
          subst none
          rw [receive]
          exact Dial.ensures_pure (Or.inr ⟨connection, unread, rfl, rfl, awaits⟩)
      | succ count =>
          rw [receive]
          apply awaits.ensures_hear (Nat.succ_pos count)
          · intro error kind
            exact Or.inl ⟨error, rfl, kind⟩
          · intro outcome left behind met
            cases met with
            | closed hangsUp all =>
                subst hangsUp
                exact Or.inl ⟨_, rfl, rfl⟩
            | late silent =>
                subst silent
                exact Or.inl ⟨_, rfl, rfl⟩
            | @part got rest split notEmpty fits further =>
                subst split
                obtain ⟨byte, bytes, more, rfl, rfl, remaining, behindStart⟩ :=
                  wanted_behind size notEmpty fits start
                have fewer : count - bytes.length < count + 1 := by omega
                apply Dial.ensures_bind_of_eq rfl
                apply Dial.ensures_bind
                refine (ih _ fewer remaining further behindStart).mono ?_
                rintro result last (⟨error, rfl, kind⟩ | ⟨left, rest, rfl, rfl, awaits⟩)
                · exact Or.inl ⟨error, rfl, kind⟩
                · refine Or.inr ⟨left, rest, ?_, rfl, awaits⟩
                  rw [List.append_assoc]

end

section
variable {one other : Connection} {peer : Peer} {origin stream part heard : Bytes}
  {ending : Ending} {started options : DialOptions}

/-- Over two tunnels the same has been heard. The first one's peer has a stream, behind what has
come with the tunnel; the second one's breaks off behind a part of the stream. -/
structure Abreast (one other : Connection) (peer : Peer) (origin stream part heard : Bytes)
    (ending : Ending) (options : DialOptions) (first second : World) : Prop where
  tunnels : ∃ said, one.Tunnels peer (fun _ => origin ++ stream) said (origin ++ heard) first
  awaits : ∃ unread, part = heard ++ unread ∧ other.Awaits ending options unread second
  alike : first.Alike second

theorem drawNumber_follows :
    Dial.Follows ending Dial.drawNumber Dial.drawNumber
      (Abreast one other peer origin stream part heard ending options)
      fun id drawn behind last => id = drawn ∧
        Abreast one other peer origin stream part heard ending options behind last := by
  rintro first second id behind ⟨⟨said, tunnels⟩, ⟨unread, split, awaits⟩, numbers, codec⟩ run
  cases run
  refine Or.inr ⟨_, rfl, congrFun numbers 0, ⟨said, ?_⟩, ⟨unread, split, ?_⟩, ?_, codec⟩
  · exact tunnels.of_links rfl
  · exact awaits.of_links rfl ⟨rfl, rfl⟩
  · change World.numbersAhead { first with drawn := first.drawn + 1 } =
      World.numbersAhead { second with drawn := second.drawn + 1 }
    rw [first.numbersAhead_drawn, second.numbersAhead_drawn, numbers]

theorem tell_follows (delivers : peer.Delivers fun _ => origin ++ stream) (packet : Bytes) :
    Dial.Follows ending (tell packet started one) (tell packet options other)
      (Abreast one other peer origin stream part heard ending options)
      fun done said behind last => done = said ∧
        Abreast one other peer origin stream part heard ending options behind last := by
  rintro first second _ behind ⟨⟨said, tunnels⟩, ⟨unread, split, awaits⟩, alike⟩ run
  have conducts : one.Conducts peer (fun _ => origin ++ stream) first.codec (fun _ => True)
      (tell packet started one)
      fun result _ replies left _ => result = .ok () → replies = [] ∧ left = one := by
    apply Dial.conducts_say delivers
    · intro error behind _
      exact nofun
    · intro fault part _ _
      exact Dial.conducts_fail fun _ _ => nofun
    · exact Dial.conducts_pure fun _ _ _ => ⟨rfl, rfl⟩
  obtain ⟨packets, replies, left, told, -, further, -⟩ :=
    (conducts first said _ rfl trivial tunnels).of_run run
  obtain ⟨rfl, rfl⟩ := told rfl
  rw [List.append_nil] at further
  have kept := ((tell_keepsHost packet started left).alike first).of_run run
  refine ((tell_awaits awaits packet).and
    ((tell_keepsHost packet options other).alike second)).mono ?_
  rintro result last ⟨fails | ⟨rfl, awaits⟩, same⟩
  · exact Or.inl fails
  · exact Or.inr ⟨(), rfl, rfl, ⟨_, further⟩, ⟨unread, split, awaits⟩,
      kept.trans (alike.trans same.symm)⟩

theorem receive_follows (delivers : peer.Delivers fun _ => origin ++ stream)
    (start : part <+: stream) (count : Nat) :
    Dial.Follows ending (receive started count one) (receive options count other)
      (Abreast one other peer origin stream part heard ending options)
      fun value found behind last => (value.1 = found.1 ∧ value.1.length = count) ∧
        Abreast value.2 found.2 peer origin stream part (heard ++ value.1) ending options behind
          last := by
  rintro first second value behind ⟨⟨said, tunnels⟩, ⟨unread, split, awaits⟩, alike⟩ run
  have conducts : one.Conducts peer (fun _ => origin ++ stream) first.codec (fun _ => True)
      (receive started count one) _ := receive_conducts delivers count one
  obtain ⟨packets, replies, left, ⟨-, length, rfl, rfl⟩, -, further, -⟩ :=
    (conducts first said _ rfl trivial tunnels).of_run run
  rw [List.append_assoc] at further
  subst split
  -- What the first one hears and what the second one can hear are parts of one stream.
  have whole : heard ++ value.1 <+: stream := by
    have inScript := (List.prefix_append _ _).trans further.exchanged.inScript
    exact (List.prefix_append_right_inj origin).mp inScript
  have both := List.prefix_or_prefix_of_prefix start whole
  rw [List.prefix_append_right_inj, List.prefix_append_right_inj] at both
  have kept := ((receive_keepsHost started count one).alike first).of_run run
  refine ((receive_awaits length awaits both).and
    ((receive_keepsHost options count other).alike second)).mono ?_
  rintro result last ⟨fails | ⟨left, rest, rfl, rfl, awaits⟩, same⟩
  · exact Or.inl fails
  · refine Or.inr ⟨_, rfl, ⟨rfl, length⟩, ⟨_, further⟩, ⟨rest, ?_, awaits⟩, ?_⟩
    · rw [List.append_assoc]
    · exact kept.trans (alike.trans same.symm)

theorem receiveMessage_follows (delivers : peer.Delivers fun _ => origin ++ stream)
    (start : part <+: stream) :
    Dial.Follows ending (receiveMessage started one) (receiveMessage options other)
      (Abreast one other peer origin stream part heard ending options)
      fun value found behind last => (value.1 = found.1 ∧ value.1.length < 65536) ∧
        Abreast value.2 found.2 peer origin stream part (heard ++ frame value.1) ending options
          behind
          last := by
  apply Dial.follows_bind (receive_follows delivers start 2)
  rintro ⟨length, one⟩ ⟨_, other⟩
  apply Dial.follows_assume
  rintro ⟨rfl, two⟩
  obtain ⟨high, low, rfl⟩ := List.length_eq_two.mp two
  refine (receive_follows delivers start _).mono ?_
  rintro ⟨message, one⟩ ⟨_, other⟩ behind last ⟨⟨rfl, size⟩, abreast⟩
  obtain ⟨framed, small⟩ := frame_of_length size
  rw [List.append_assoc] at abreast
  exact ⟨⟨rfl, small⟩, framed ▸ abreast⟩

theorem exchange_follows (delivers : peer.Delivers fun _ => origin ++ stream)
    (start : part <+: stream) (host : String) (type : RecordType) :
    Dial.Follows ending (exchange host type started one) (exchange host type options other)
      (Abreast one other peer origin stream part heard ending options)
      fun value found behind last => value.1 = found.1 ∧ ∃ message : Bytes, message.length < 65536 ∧
        Abreast value.2 found.2 peer origin stream part (heard ++ frame message) ending options
          behind
          last := by
  rw [exchange_eq_tell, exchange_eq_tell]
  apply Dial.follows_bind_same drawNumber_follows
  intro id
  apply Dial.follows_bind_same (Dial.follows_ofExcept _)
  intro query
  by_cases large : query.length ≥ 65536
  · simp only [if_pos large]
    exact Dial.follows_fail
  · simp only [if_neg large]
    apply Dial.follows_bind_same (tell_follows delivers (frame query))
    intro _
    apply Dial.follows_bind (receiveMessage_follows delivers start)
    rintro ⟨message, one⟩ ⟨_, other⟩
    apply Dial.follows_assume
    rintro ⟨rfl, small⟩
    apply Dial.follows_get
    intro here there abreast
    rw [abreast.alike.codec]
    exact Dial.follows_pure fun _ _ abreast => ⟨rfl, message, small, abreast⟩

/-- Each family costs the second lookup a message, too. -/
theorem queryFamilies_follows (delivers : peer.Delivers fun _ => origin ++ stream)
    (start : part <+: stream) (host : String) (found : List IpAddress) (failed : Option Error)
    (types : List RecordType) :
    Dial.Follows ending (queryFamilies host started found failed types one)
      (queryFamilies host options found failed types other)
      (Abreast one other peer origin stream part heard ending options)
      fun _ _ _ _ => ∃ messages, Framed types.length messages ∧
        heard ++ messages.flatMap frame <+: part := by
  induction types generalizing found failed one other heard with
  | nil =>
      unfold queryFamilies
      have taken (first second : World)
          (abreast : Abreast one other peer origin stream part heard ending options first second) :
          ∃ messages, Framed 0 messages ∧ heard ++ messages.flatMap frame <+: part := by
        obtain ⟨unread, split, -⟩ := abreast.awaits
        refine ⟨[], .nil, unread, ?_⟩
        rw [split, List.flatMap_nil, List.append_nil]
      cases failed with
      | none => exact Dial.follows_pure taken
      | some error =>
          cases found with
          | nil => exact Dial.follows_fail
          | cons address found => exact Dial.follows_pure taken
  | cons type types ih =>
      unfold queryFamilies
      apply Dial.follows_bind (exchange_follows delivers start host type)
      rintro ⟨answer, one⟩ ⟨_, other⟩
      apply Dial.follows_assume
      rintro rfl
      have further (found : List IpAddress) (failed : Option Error) :
          Dial.Follows ending (queryFamilies host started found failed types one)
            (queryFamilies host options found failed types other)
            (fun first second => ∃ message : Bytes, message.length < 65536 ∧
              Abreast one other peer origin stream part (heard ++ frame message) ending options
                first
                second)
            fun _ _ _ _ => ∃ messages, Framed (types.length + 1) messages ∧
              heard ++ messages.flatMap frame <+: part := by
        rintro first second value behind ⟨message, small, abreast⟩ run
        refine (ih found failed first second value behind abreast run).mono ?_
        rintro result last (fails | ⟨others, rfl, messages, framed, within⟩)
        · exact Or.inl fails
        · refine Or.inr ⟨others, rfl, message :: messages, framed.cons small, ?_⟩
          rw [List.flatMap_cons, ← List.append_assoc]
          exact within
      cases answer with
      | ok addresses => exact further _ _
      | error error =>
          dsimp only
          split
          · exact further _ _
          · exact Dial.follows_fail

end

/-- A run of a lookup that finds addresses. Behind what has come with the tunnel, the nameserver has
a stream. -/
structure Success (resolver : ProxiedResolver) (host : String) (port : UInt16) where
  world : World
  options : DialOptions
  connection : Connection
  opened : World
  peer : Peer
  origin : Bytes
  stream : Bytes
  said : Bytes
  addresses : List SocketAddress
  behind : World
  isName : IpAddress.ofString? host = none
  starts : resolver.dialer.options.started? world.now = some options
  opens : (resolver.dialer.withOptions options).dialAddress (toString resolver.nameserver)
    (world.looked .starts resolver.dialer.options) = (.ok connection, opened)
  delivers : peer.Delivers fun _ => origin ++ stream
  tunnels : connection.Tunnels peer (fun _ => origin ++ stream) said origin opened
  returns : resolver.lookup host port world = (.ok addresses, behind)

/-- Two framed replies are what the exchanges of the run read, and they tell its answer. -/
def Success.Reads {resolver : ProxiedResolver} {host : String} {port : UInt16}
    (run : resolver.Success host port) (first second : Bytes) : Prop :=
  first.length < 65536 ∧ second.length < 65536 ∧ frame first ++ frame second <+: run.stream ∧
    ∃ name outcomes packets,
      Exchanges ⟨run.connection.socket, run.options, run.opened.codec⟩ name run.behind [.a, .aaaa]
        outcomes packets (frame first ++ frame second) ∧
      Answers host port outcomes (.ok run.addresses)

/-- Over a tunnel on which only these bytes come from the nameserver, a lookup on a host like this
one fails as the ending tells. -/
def LookupFailsBehind (resolver : ProxiedResolver) (host : String) (port : UInt16) (like : World)
    (part : Bytes) (ending : Ending) : Prop :=
  ∀ world options connection opened,
    resolver.dialer.options.started? world.now = some options →
    (resolver.dialer.withOptions options).dialAddress (toString resolver.nameserver)
      (world.looked .starts resolver.dialer.options) = (.ok connection, opened) →
    connection.Awaits ending options part opened → opened.Alike like →
      (resolver.lookup host port).Ensures world fun result _ => ending.Fails result

/-- A host that is asked for has a name. -/
theorem name_of_exchange {host : String} {type : RecordType} {options : DialOptions}
    {connection : Connection} {world behind : World}
    {value : Except Error (List IpAddress) × Connection}
    (run : exchange host type options connection world = (.ok value, behind)) :
    ∃ name, Name.ofHost host = .ok name := by
  obtain ⟨id, between, -, run⟩ := Dial.bind_run_ok run
  obtain ⟨query, middle, encodes, -⟩ := Dial.bind_run_ok run
  have encoded := (Dial.ofExcept_run_ok encodes).1
  unfold encodeQuery at encoded
  cases encodable : Name.ofHost host with
  | ok name => exact ⟨name, rfl⟩
  | error problem =>
      rw [encodable] at encoded
      cases encoded

theorem ask_run_ok {host : String} {port : UInt16} {options : DialOptions}
    {connection : Connection} {world behind : World} {addresses : List SocketAddress}
    (run : ask host port options connection world = (.ok addresses, behind)) :
    ∃ found middle, queryFamilies host options [] none [.a, .aaaa] connection world =
      (.ok found, middle) := by
  obtain ⟨result, closing, attempted, run⟩ := Dial.bind_run_ok run
  obtain ⟨_, closed, -, run⟩ := Dial.bind_run_ok run
  obtain ⟨found, last, returned, -⟩ := Dial.bind_run_ok run
  rw [(Dial.ofExcept_run_ok returned).1] at attempted
  exact ⟨found, closing, Dial.attempt_run_ok attempted⟩

namespace Success

variable {resolver : ProxiedResolver} {host : String} {port : UInt16}

theorem asks (run : resolver.Success host port) :
    ask host port run.options run.connection run.opened = (.ok run.addresses, run.behind) := by
  have returns := run.returns
  rw [resolver.lookup_eq_ask port run.isName] at returns
  obtain ⟨options, between, begins, returns⟩ := Dial.bind_run_ok returns
  rw [Dial.started_run_of run.starts] at begins
  cases begins
  obtain ⟨connection, opened, opens, returns⟩ := Dial.bind_run_ok returns
  rw [run.opens] at opens
  cases opens
  exact returns

theorem reads (run : resolver.Success host port) : ∃ first second, run.Reads first second := by
  obtain ⟨found, middle, asked⟩ := ask_run_ok run.asks
  obtain ⟨answer, between, exchanged, -⟩ := Dial.bind_run_ok asked
  obtain ⟨name, encodes⟩ := name_of_exchange exchanged
  obtain ⟨packets, replies, outcomes, link, exchanges, answers, -, -, heard⟩ :=
    (ask_ensures run.delivers encodes port run.tunnels).of_run run.asks
  obtain ⟨goesOn, -⟩ := (answers.ok_iff run.addresses).mp rfl
  obtain ⟨messages, framed, rfl⟩ := exchanges.framed goesOn
  obtain ⟨first, second, rfl⟩ := List.length_eq_two.mp framed.length
  rw [frames_pair] at exchanges heard
  have inStream := (List.prefix_append_right_inj run.origin).mp heard
  exact ⟨first, second, framed.small _ (by simp), framed.small _ (by simp), inStream, name,
    outcomes, packets, exchanges, answers⟩

/-- The replies that a lookup reads are needed to the last byte. -/
theorem lookup_truncated (run : resolver.Success host port) {first second part : Bytes}
    (reads : run.Reads first second) (start : part <+: frame first ++ frame second)
    (proper : part ≠ frame first ++ frame second) (ending : Ending) :
    resolver.LookupFailsBehind host port run.opened part ending := by
  obtain ⟨small, otherSmall, inStream, -⟩ := reads
  obtain ⟨found, middle, asked⟩ := ask_run_ok run.asks
  intro world options connection opened starts opens awaits alike
  have within : part <+: run.stream := start.trans inStream
  have tunnels : run.connection.Tunnels run.peer (fun _ => run.origin ++ run.stream) run.said
      (run.origin ++ []) run.opened := by
    rw [List.append_nil]
    exact run.tunnels
  have abreast : Abreast run.connection connection run.peer run.origin run.stream part [] ending
      options run.opened opened := ⟨⟨run.said, tunnels⟩, ⟨part, rfl, awaits⟩, alike.symm⟩
  have follows := queryFamilies_follows run.delivers within host [] none [.a, .aaaa] run.opened
    opened found middle abreast asked
  have fails : (queryFamilies host options [] none [.a, .aaaa] connection).Ensures opened
      fun result _ => ending.Fails result := by
    refine follows.mono ?_
    rintro result last (fails | ⟨others, rfl, messages, framed, taken⟩)
    · exact fails
    · -- The second lookup would have read both replies.
      rw [List.nil_append] at taken
      rw [← frames_pair] at inStream
      have same := framed.unique (Framed.pair small otherSmall) (taken.trans within) inStream
      rw [same, frames_pair] at taken
      exact absurd (start.eq_of_length_le taken.length_le) proper
  rw [resolver.lookup_eq_ask port run.isName]
  apply Dial.ensures_bind_of_eq (Dial.started_run_of starts)
  apply Dial.ensures_bind_of_eq opens
  exact Ending.ensures_closing fails fun _ => rfl

end Success

end ProxyDial.ProxiedResolver
