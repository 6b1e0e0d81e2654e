import ProxyDial.Proofs.Net.Script
import ProxyDial.Socks.Tunnel

set_option autoImplicit false

/-! What the two sides of a SOCKS handshake have exchanged after each of its steps. A packet that is
sent adds to what has been said, a reply that is read adds to what has been heard, and a step that
fails has added less than it was to. -/

namespace ProxyDial
open Text

namespace Socks

variable {socket : Socket} {peer : Peer} {script : Bytes → Bytes} {said heard : Bytes}
  {world : World} {options : DialOptions}

/-- A packet that is not sent as a whole may have been begun. -/
theorem ensures_send (delivers : peer.Delivers script) (packet : Bytes)
    (exchanged : socket.Exchanged peer script said heard world) :
    (send packet options socket).Ensures world fun result behind =>
      match result with
      | .ok () => socket.Exchanged peer script (said ++ packet) heard behind
      | .error abort => (∃ error, abort = .failed error) ∧
          ∃ part, part <+: packet ∧ socket.Exchanged peer script (said ++ part) heard behind := by
  apply Socket.ensures_say exchanged.talks
  case expired =>
    intro error _
    refine ⟨⟨error, rfl⟩, [], List.nil_prefix, ?_⟩
    rw [List.append_nil]
    exact exchanged.looked .draws options
  case broken =>
    intro left fault part time behind _ _ breaks talks
    exact Dial.ensures_fail ⟨⟨_, rfl⟩, part, breaks.inPart, talks,
      exchanged.inScript.trans (delivers.grows said part)⟩
  case said =>
    intro left time behind _ _ talks _
    exact Dial.ensures_pure
      ⟨talks, exchanged.inScript.trans (delivers.grows said packet)⟩

theorem ensures_receive (delivers : peer.Delivers script) (count : Nat)
    (exchanged : socket.Exchanged peer script said heard world) :
    (receive options socket count).Ensures world fun result behind =>
      match result with
      | .ok bytes => bytes.length = count ∧
          socket.Exchanged peer script said (heard ++ bytes) behind
      | .error abort => (∃ error, abort = .failed error) ∧
          ∃ part, part.length < count ∧
            socket.Exchanged peer script said (heard ++ part) behind := by
  induction count using Nat.strongRecOn generalizing heard world with
  | ind count ih =>
      cases count with
      | zero =>
          rw [receive]
          apply Dial.ensures_pure
          refine ⟨rfl, ?_⟩
          rw [List.append_nil]
          exact exchanged
      | succ count =>
          have short : ∀ {behind : World}, socket.Talks peer said heard.length behind →
              ∃ part : Bytes, part.length < count + 1 ∧
                socket.Exchanged peer script said (heard ++ part) behind := by
            intro behind talks
            refine ⟨[], Nat.succ_pos count, ?_, ?_⟩
            · rw [List.append_nil]
              exact talks
            · rw [List.append_nil]
              exact exchanged.inScript
          rw [receive]
          apply Socket.ensures_hear (Nat.succ_pos count) exchanged.talks
          case expired =>
            intro error _
            exact ⟨⟨error, rfl⟩, short exchanged.talks⟩
          case failed =>
            intro left fault behind _ _ talks
            exact ⟨⟨_, rfl⟩, short talks⟩
          case heard =>
            intro left bytes delay behind _ met talks _
            obtain ⟨here, fits, -⟩ := delivers.meets (Nat.succ_pos count) met
            cases bytes with
            | nil => exact ⟨⟨_, rfl⟩, short talks⟩
            | cons byte bytes =>
                have further := exchanged.hear here talks
                rw [List.length_cons] at fits
                apply Dial.ensures_bind_of_eq rfl
                apply Dial.ensures_bind
                refine (ih (count - bytes.length) (by omega) further).mono ?_
                intro result last found
                cases result with
                | ok rest =>
                    obtain ⟨exact', all⟩ := found
                    refine ⟨?_, ?_⟩
                    · simp only [List.cons_append, List.length_cons, List.length_append, exact']
                      omega
                    · rw [← List.append_assoc]
                      exact all
                | error abort =>
                    obtain ⟨failed, part, less, some⟩ := found
                    refine ⟨failed, byte :: bytes ++ part, ?_, ?_⟩
                    · simp only [List.cons_append, List.length_cons, List.length_append]
                      omega
                    · rw [← List.append_assoc]
                      exact some

/-! A peer that plays its whole stream lets every step succeed for which it has enough bytes. -/

variable {stream bytes rest : Bytes} {patience : Duration}

theorem send_plays (plays : peer.Plays stream patience) (packet : Bytes) {pieces : Nat}
    (talks : socket.Talks peer said heard.length world)
    (enough : options.Enough world pieces patience) :
    (send packet options socket).Ensures world fun result behind =>
      result = .ok () ∧ socket.Talks peer (said ++ packet) heard.length behind ∧
        options.Enough behind pieces patience := by
  apply Socket.ensures_say_at_once plays.takes talks enough
  intro behind further enough
  exact Dial.ensures_pure ⟨rfl, further, enough⟩

theorem receive_plays (plays : peer.Plays stream patience) (split : stream = heard ++ bytes ++ rest)
    (talks : socket.Talks peer said heard.length world)
    (enough : options.Enough world (bytes ++ rest).length patience) :
    (receive options socket bytes.length).Ensures world fun result behind =>
      result = .ok bytes ∧ socket.Talks peer said (heard ++ bytes).length behind ∧
        options.Enough behind rest.length patience := by
  induction count : bytes.length using Nat.strongRecOn generalizing heard bytes world with
  | ind length ih =>
      cases bytes with
      | nil =>
          subst count
          rw [List.length_nil, receive]
          apply Dial.ensures_pure
          rw [List.append_nil]
          exact ⟨rfl, talks, enough⟩
      | cons first others =>
          subst count
          rw [List.length_cons, receive]
          have unreadThere : stream = heard ++ (first :: others ++ rest) := by
            rw [split, List.append_assoc]
          apply Socket.ensures_hear_plays plays unreadThere
            (List.cons_ne_nil first (others ++ rest)) (Nat.succ_pos others.length) talks enough
          intro got unread behind notEmpty fits whole further enough
          -- What has come ends within the bytes that are asked for.
          have part : got <+: first :: others :=
            List.prefix_of_prefix_length_le ⟨unread, whole.symm⟩
              (List.prefix_append (first :: others) rest) fits
          obtain ⟨more, same⟩ := part
          have behindGot : unread = more ++ rest := by
            rw [← same, List.append_assoc] at whole
            exact (List.append_cancel_left whole).symm
          subst behindGot
          cases got with
          | nil => exact absurd rfl notEmpty
          | cons byte bytes =>
              have lengths := congrArg List.length same
              simp only [List.cons_append, List.length_cons, List.length_append] at lengths
              have remaining : others.length - bytes.length = more.length := by omega
              apply Dial.ensures_bind_of_eq rfl
              apply Dial.ensures_bind
              simp only [remaining]
              have rejoined : stream = (heard ++ byte :: bytes) ++ more ++ rest := by
                rw [split, ← same]
                simp only [List.append_assoc]
              have fewer : more.length < (first :: others).length := by
                rw [List.length_cons]
                omega
              refine (ih more.length fewer rejoined further enough rfl).mono ?_
              intro result last found
              obtain ⟨ok, talks, enough⟩ := found
              subst ok
              rw [← same, ← List.append_assoc]
              exact ⟨rfl, talks, enough⟩

/-! Whole handshakes. What a dial says and hears is described once for each of its steps, and
followed from the first step to the last. -/

variable {α β : Type}

/-- Wherever a dial starts from, a transcript describes its result, what it says and what it hears.
-/
def Says (socket : Socket) (peer : Peer) (script : Bytes → Bytes) (dial : Dial α)
    (transcript : Except Abort α → Bytes → Bytes → Prop) : Prop :=
  ∀ world said heard, socket.Exchanged peer script said heard world →
    dial.Ensures world fun result behind => ∃ packets replies, transcript result packets replies ∧
      socket.Exchanged peer script (said ++ packets) (heard ++ replies) behind

theorem Says.mono {dial : Dial α} {transcript weaker : Except Abort α → Bytes → Bytes → Prop}
    (step : Says socket peer script dial transcript)
    (weaken : ∀ result packets replies, transcript result packets replies →
      weaker result packets replies) :
    Says socket peer script dial weaker := by
  intro world said heard exchanged
  refine (step world said heard exchanged).mono ?_
  intro result behind found
  obtain ⟨packets, replies, held, exchanged⟩ := found
  exact ⟨packets, replies, weaken result packets replies held, exchanged⟩

theorem says_pure {transcript : Except Abort α → Bytes → Bytes → Prop} {value : α}
    (holds : transcript (.ok value) [] []) : Says socket peer script (pure value) transcript := by
  intro world said heard exchanged
  refine Dial.ensures_pure ⟨[], [], holds, ?_⟩
  rw [List.append_nil, List.append_nil]
  exact exchanged

theorem says_fail {transcript : Except Abort α → Bytes → Bytes → Prop} {error : Error}
    (holds : transcript (.error (.failed error)) [] []) :
    Says socket peer script (Dial.fail error) transcript := by
  intro world said heard exchanged
  refine Dial.ensures_fail ⟨[], [], holds, ?_⟩
  rw [List.append_nil, List.append_nil]
  exact exchanged

theorem says_bind {first : Dial α} {next : α → Dial β}
    {middle : Except Abort α → Bytes → Bytes → Prop}
    {transcript : Except Abort β → Bytes → Bytes → Prop}
    (step : Says socket peer script first middle)
    (stops : ∀ abort packets replies, middle (.error abort) packets replies →
      transcript (.error abort) packets replies)
    (goes : ∀ value packets replies, middle (.ok value) packets replies →
      Says socket peer script (next value) fun result more further =>
        transcript result (packets ++ more) (replies ++ further)) :
    Says socket peer script (first >>= next) transcript := by
  intro world said heard exchanged
  apply Dial.ensures_bind
  refine (step world said heard exchanged).mono ?_
  intro result behind found
  obtain ⟨packets, replies, held, exchanged⟩ := found
  cases result with
  | error abort => exact ⟨packets, replies, stops abort packets replies held, exchanged⟩
  | ok value =>
      refine (goes value packets replies held behind _ _ exchanged).mono ?_
      intro result last found
      obtain ⟨more, further, held, exchanged⟩ := found
      refine ⟨packets ++ more, replies ++ further, held, ?_⟩
      rw [← List.append_assoc, ← List.append_assoc]
      exact exchanged

theorem says_send (delivers : peer.Delivers script) {packet : Bytes} {next : Unit → Dial β}
    {transcript : Except Abort β → Bytes → Bytes → Prop}
    (unsaid : ∀ error part, part <+: packet → transcript (.error (.failed error)) part [])
    (goes : Says socket peer script (next ()) fun result more replies =>
      transcript result (packet ++ more) replies) :
    Says socket peer script (send packet options socket >>= next) transcript := by
  have step : Says socket peer script (send packet options socket) fun result packets replies =>
      replies = [] ∧
        match result with
        | .ok () => packets = packet
        | .error abort => (∃ error, abort = .failed error) ∧ packets <+: packet := by
    intro world said heard exchanged
    refine (ensures_send delivers packet exchanged).mono ?_
    intro result behind found
    cases result with
    | ok done =>
        refine ⟨packet, [], ⟨rfl, rfl⟩, ?_⟩
        rw [List.append_nil]
        exact found
    | error abort =>
        obtain ⟨failed, part, inPart, begun⟩ := found
        refine ⟨part, [], ⟨rfl, failed, inPart⟩, ?_⟩
        rw [List.append_nil]
        exact begun
  apply says_bind step
  · intro abort packets replies held
    obtain ⟨rfl, ⟨error, rfl⟩, inPart⟩ := held
    exact unsaid error packets inPart
  · intro value packets replies held
    obtain ⟨rfl, rfl⟩ := held
    exact goes

theorem says_receive (delivers : peer.Delivers script) {count : Nat} {next : Bytes → Dial β}
    {transcript : Except Abort β → Bytes → Bytes → Prop}
    (short : ∀ error part, part.length < count → transcript (.error (.failed error)) [] part)
    (goes : ∀ bytes, bytes.length = count →
      Says socket peer script (next bytes) fun result packets further =>
        transcript result packets (bytes ++ further)) :
    Says socket peer script (receive options socket count >>= next) transcript := by
  have step : Says socket peer script (receive options socket count) fun result packets replies =>
      packets = [] ∧
        match result with
        | .ok bytes => bytes.length = count ∧ replies = bytes
        | .error abort => (∃ error, abort = .failed error) ∧ replies.length < count := by
    intro world said heard exchanged
    refine (ensures_receive delivers count exchanged).mono ?_
    intro result behind found
    cases result with
    | ok bytes =>
        refine ⟨[], bytes, ⟨rfl, found.1, rfl⟩, ?_⟩
        rw [List.append_nil]
        exact found.2
    | error abort =>
        obtain ⟨failed, part, less, some⟩ := found
        refine ⟨[], part, ⟨rfl, failed, less⟩, ?_⟩
        rw [List.append_nil]
        exact some
  apply says_bind step
  · intro abort packets replies held
    obtain ⟨rfl, ⟨error, rfl⟩, less⟩ := held
    exact short error replies less
  · intro bytes packets replies held
    obtain ⟨rfl, length, rfl⟩ := held
    exact goes replies length

/-- A dial that hears these replies from a peer that plays a stream returns this value. -/
def Completes (socket : Socket) (peer : Peer) (stream : Bytes) (patience : Duration)
    (options : DialOptions) (dial : Dial α) (replies : Bytes) (value : α) : Prop :=
  ∀ world said heard rest, stream = heard ++ replies ++ rest →
    socket.Talks peer said heard.length world →
    options.Enough world (replies ++ rest).length patience →
    dial.Ensures world fun result behind => result = .ok value ∧
      (∃ said, socket.Talks peer said (heard ++ replies).length behind) ∧
      options.Enough behind rest.length patience

theorem completes_pure {value : α} :
    Completes socket peer stream patience options (pure value) [] value := by
  intro world said heard rest split talks enough
  apply Dial.ensures_pure
  rw [List.append_nil]
  exact ⟨rfl, ⟨said, talks⟩, enough⟩

theorem completes_bind {first : Dial α} {next : α → Dial β} {replies further whole : Bytes}
    {middle : α} {value : β} (split : whole = replies ++ further)
    (one : Completes socket peer stream patience options first replies middle)
    (other : Completes socket peer stream patience options (next middle) further value) :
    Completes socket peer stream patience options (first >>= next) whole value := by
  subst split
  intro world said heard rest split talks enough
  apply Dial.ensures_bind
  rw [List.append_assoc] at enough
  refine (one world said heard (further ++ rest)
    (by simpa only [List.append_assoc] using split) talks enough).mono ?_
  intro result behind found
  obtain ⟨ok, ⟨said, talks⟩, enough⟩ := found
  subst ok
  refine (other behind said (heard ++ replies) rest
    (by simpa only [List.append_assoc] using split) talks enough).mono ?_
  intro result last found
  rw [← List.append_assoc]
  exact found

theorem completes_ofExcept {value : Except Error α} {found : α} (ok : value = .ok found) :
    Completes socket peer stream patience options (Dial.ofExcept value) [] found := by
  subst ok
  exact completes_pure

theorem completes_send (plays : peer.Plays stream patience) (packet : Bytes) :
    Completes socket peer stream patience options (send packet options socket) [] () := by
  intro world said heard rest split talks enough
  refine (send_plays plays packet talks enough).mono ?_
  intro result behind found
  obtain ⟨ok, talks, enough⟩ := found
  rw [List.append_nil]
  exact ⟨ok, ⟨_, talks⟩, enough⟩

theorem completes_receive (plays : peer.Plays stream patience) {bytes : Bytes} {count : Nat}
    (whole : bytes.length = count) :
    Completes socket peer stream patience options (receive options socket count) bytes bytes := by
  subst whole
  intro world said heard rest split talks enough
  refine (receive_plays plays split talks enough).mono ?_
  intro result behind found
  obtain ⟨ok, talks, enough⟩ := found
  exact ⟨ok, ⟨said, talks⟩, enough⟩

end Socks

end ProxyDial
