import ProxyDial.Http.Tunnel
import ProxyDial.Proofs.Http.HeadEnd
import ProxyDial.Proofs.Net.Uses

set_option autoImplicit false

/-! A tunnel through an HTTP proxy changes no bytes. What a proxy sends behind the head of its
answer is read once and in order, wherever the reads of the handshake have cut it, by reads of any
sizes and with writes between them. What is written goes to the proxy behind the request. -/

namespace ProxyDial
open Text

namespace Http

/-- A verdict that grants the tunnel comes from a whole head. -/
theorem head_of_verdict {destination : Destination} {answer held : Bytes}
    (granted : verdict destination answer = .ok (some held)) :
    ∃ head, ResponseHead.ofBytes answer = .ok head ∧ held = answer.drop head.length := by
  unfold verdict at granted
  cases read : ResponseHead.ofBytes answer with
  | ok head =>
      rw [read] at granted
      dsimp only at granted
      split at granted
      · cases granted
        exact ⟨head, rfl, rfl⟩
      · cases granted
  | error unread =>
      rw [read] at granted
      cases unread with
      | malformed problem => cases granted
      | incomplete =>
          dsimp only at granted
          split at granted
          · cases granted
          · cases granted

theorem verdict_some {destination : Destination} {answer behind : Bytes}
    (accepted : verdict destination answer = .ok (some behind)) (more : Bytes) :
    behindHead (answer ++ more) = some (behind ++ more) := by
  obtain ⟨head, read, rfl⟩ := head_of_verdict accepted
  exact ofBytes_ok read more

section
variable {socket : Socket} {peer : Peer} {script : Bytes → Bytes} {said : Bytes} {world : World}
  {options : DialOptions}

theorem ensures_readAnswer (delivers : peer.Delivers script) (destination : Destination)
    (room : Nat) {answer : Bytes} (exchanged : socket.Exchanged peer script said answer world) :
    (readAnswer destination options socket room answer).Ensures world fun result behind =>
      ∀ held, result = .ok held → ∃ heard, socket.Exchanged peer script said heard behind ∧
        verdict destination heard = .ok (some held) := by
  induction room generalizing answer world with
  | zero =>
      apply Dial.ensures_fail
      intro held impossible
      cases impossible
  | succ room ih =>
      have failed : ∀ (abort : Abort) (behind : World), ∀ held : Bytes,
          Except.error abort = .ok held →
          ∃ heard, socket.Exchanged peer script said heard behind ∧
            verdict destination heard = .ok (some held) := by
        intro abort behind held impossible
        cases impossible
      unfold readAnswer
      apply Socket.ensures_hear (by decide) exchanged.talks
      case expired =>
        intro error _
        exact failed _ _
      case failed =>
        intro left fault behind _ _ _
        exact failed _ _
      case heard =>
        intro left chunk delay behind _ met talks _
        obtain ⟨here, -, -⟩ := delivers.meets (by decide) met
        apply Dial.ensures_bind_of_eq rfl
        cases chunk with
        | nil => exact failed _ _
        | cons byte chunk =>
            have further := exchanged.hear here talks
            simp only [List.isEmpty_cons, Bool.false_eq_true, if_false]
            cases judged : verdict destination (answer ++ byte :: chunk) with
            | error error => exact failed _ _
            | ok meaning =>
                apply Dial.ensures_bind_of_eq rfl
                cases meaning with
                | none => exact ih further
                | some held =>
                    apply Dial.ensures_pure
                    intro held' same
                    cases same
                    exact ⟨_, further, judged⟩

theorem ensures_handshake (delivers : peer.Delivers script) (destination : Destination)
    (authorization : Option String) (exchanged : socket.Exchanged peer script said [] world) :
    (handshake destination authorization options socket).Ensures world fun result behind =>
      ∀ held, result = .ok held → ∃ heard,
        socket.Exchanged peer script (said ++ utf8 (requestHead destination authorization)) heard
          behind ∧
        verdict destination heard = .ok (some held) := by
  unfold handshake
  apply Socket.ensures_say exchanged.talks
  case expired =>
    intro error _ held impossible
    cases impossible
  case broken =>
    intro left fault part time behind _ _ _ _ held impossible
    cases impossible
  case said =>
    intro left time behind _ _ talks _
    apply Dial.ensures_bind_of_eq rfl
    exact ensures_readAnswer delivers destination _ ⟨talks, List.nil_prefix⟩

/-- A tunnel starts with what has arrived behind the head, and its reads and writes may take any
time. -/
theorem ensures_openTunnel_judged (delivers : peer.Delivers script) (destination : Destination)
    (authorization : Option String) (exchanged : socket.Exchanged peer script said [] world) :
    (openTunnel destination authorization options socket).Ensures world fun result behind =>
      ∀ stream, result = .ok stream → ∃ held heard, stream = .tunneled ⟨held, socket⟩ ∧
        socket.Flows peer (said ++ utf8 (requestHead destination authorization)) heard.length
          behind ∧
        heard <+: script (said ++ utf8 (requestHead destination authorization)) ∧
        verdict destination heard = .ok (some held) := by
  unfold openTunnel
  apply ensures_started
  case overflow =>
    intro _ stream impossible
    cases impossible
  case starts =>
    intro started _
    apply Dial.ensures_attempt
    have begun := exchanged.looked .starts options
    refine (ensures_handshake delivers destination authorization begun).mono ?_
    intro result behind found
    cases result with
    | error abort =>
        cases abort with
        | clockOverflow =>
            intro stream impossible
            cases impossible
        | failed error =>
            change Dial.Ensures (socket.close >>= fun _ => Dial.fail error) behind _
            apply Dial.ensures_bind_of_eq (rfl : socket.close behind = (.ok (), _))
            apply Dial.ensures_fail
            intro stream impossible
            cases impossible
    | ok held =>
        obtain ⟨heard, further, ends⟩ := found held rfl
        obtain ⟨link, here, isOpen, samePeer, sameSent, sameReceived⟩ := further.talks
        obtain ⟨unread, readRun, readHere, -⟩ :=
          Socket.update_run ({ · with readLimit := none }) here
        obtain ⟨unbound, writeRun, writeHere, -⟩ :=
          Socket.update_run ({ · with writeLimit := none }) readHere
        change Dial.Ensures (do
          socket.setReadLimit none
          socket.setWriteLimit none
          return RawStream.tunneled ⟨held, socket⟩) behind _
        apply Dial.ensures_bind_of_eq readRun
        apply Dial.ensures_bind_of_eq writeRun
        apply Dial.ensures_pure
        intro stream same
        cases same
        exact ⟨held, heard, rfl,
          ⟨_, writeHere, isOpen, samePeer, sameSent, sameReceived, rfl, rfl⟩, further.inScript,
          ends⟩

theorem ensures_openTunnel (delivers : peer.Delivers script) (destination : Destination)
    (authorization : Option String) (exchanged : socket.Exchanged peer script said [] world) :
    (openTunnel destination authorization options socket).Ensures world fun result behind =>
      ∀ stream, result = .ok stream → ∃ held heard, stream = .tunneled ⟨held, socket⟩ ∧
        socket.Flows peer (said ++ utf8 (requestHead destination authorization)) heard.length
          behind ∧
        heard <+: script (said ++ utf8 (requestHead destination authorization)) ∧
        ∀ more, behindHead (heard ++ more) = some (held ++ more) := by
  refine (ensures_openTunnel_judged delivers destination authorization exchanged).mono ?_
  intro result behind found stream same
  obtain ⟨held, heard, tunneled, flows, inScript, judged⟩ := found stream same
  exact ⟨held, heard, tunneled, flows, inScript, verdict_some judged⟩

/-- Through a tunnel every byte behind the head of the proxy's answer is read once and in order,
with any reads and writes, and all of them once a read has met the end. Writes go to the proxy
behind the request, in their order: all of one that succeeds, and a beginning of one that fails.
Where the proxy goes on to its end and takes what is written, more reads than there are bytes meet
the end, and all that is written arrives. -/
theorem tunnel_carries_all_bytes (delivers : peer.Delivers script)
    (talks : socket.Talks peer said 0 world) (destination : Destination)
    (authorization : Option String) (options : DialOptions) :
    (openTunnel destination authorization options socket).Ensures world fun result behind =>
      ∀ stream, result = .ok stream → ∀ uses : List Use,
        (Use.all uses stream .start).Ensures behind fun outcome last =>
          ∃ held account carried sent received payload,
            outcome = .ok (.tunneled ⟨held, socket⟩, account) ∧
            account.puts.map Prod.fst = uses.flatMap Use.writes ∧
            Carried account.puts carried ∧
            sent = said ++ utf8 (requestHead destination authorization) ++ carried ∧
            socket.Talks peer sent received last ∧
            behindHead (script sent) = some payload ∧
            payload = account.got ++ held ++ (script sent).drop received ∧
            (account.ended = true → account.got = payload) ∧
            (∀ stream patience, peer.Plays stream patience →
              payload.length < uses.countP Use.asks → account.ended = true) ∧
            (peer.TakesAll → carried = (uses.flatMap Use.writes).flatten) := by
  refine (ensures_openTunnel delivers destination authorization ⟨talks, List.nil_prefix⟩).mono ?_
  intro result behind found stream same uses
  obtain ⟨held, heard, tunneled, flows, inScript, ends⟩ := found stream same
  subst tunneled
  have serves : Serves socket peer script
      (said ++ utf8 (requestHead destination authorization)) held heard .start [] held []
      behind := by
    refine ⟨?_, ?_, ?_, ?_, .start⟩
    · rw [List.append_nil, List.append_nil]
      exact flows
    · rw [List.append_nil, List.append_nil]
      exact inScript
    · rw [List.append_nil]
      rfl
    · intro impossible
      cases impossible
  refine (Use.all_serves delivers uses serves).mono ?_
  rintro outcome last ⟨carried, rest, further, account, same, served, -, accrued⟩
  obtain ⟨unread, split⟩ := served.inScript
  obtain ⟨puts, samePuts, written, allOk⟩ := accrued.puts
  have own : account.puts = puts := samePuts
  have behindScript : (script (said ++ utf8 (requestHead destination authorization) ++
      carried)).drop (heard ++ further).length = unread := by
    rw [← split, List.drop_left]
  have payload : behindHead (script (said ++ utf8 (requestHead destination authorization) ++
      carried)) = some (account.got ++ rest ++ unread) := by
    rw [← split, List.append_assoc, ends, ← List.append_assoc, served.conserved]
  have complete : account.ended = true → account.got = account.got ++ rest ++ unread := by
    intro ended
    obtain ⟨empty, bound⟩ := served.ended ended
    have atEnd := bound []
    rw [List.append_nil] at atEnd
    have none : unread = [] := by
      rw [← behindScript]
      exact List.drop_eq_nil_of_le atEnd
    rw [empty, none, List.append_nil, List.append_nil]
  refine ⟨rest, account, carried, _, _, _, same, ?_, served.carried, rfl, served.flows.talks,
    payload, ?_, complete, ?_, ?_⟩
  · rw [own, written]
  · rw [behindScript]
  · intro stream patience plays enough
    rcases accrued.asked stream patience plays with grown | ended
    · simp only [List.length_append] at enough
      simp only [Account.start, List.length_nil] at grown
      omega
    · exact ended
  · intro takes
    have succeed := allOk takes
    rw [← own] at succeed
    rw [served.carried.all succeed, own, written]

end

/-- An answer that is followed by the first bytes of the tunnel at once. -/
def pipelinedAnswer : Bytes := utf8 "HTTP/1.1 200 OK\r\n\r\nhello"

/-- They are all read, whatever the sizes of the reads and the writes between them. -/
theorem tunnel_carries_pipelined_bytes :
    (openTunnel ⟨"db", 9042⟩ none .default ⟨0⟩).Ensures
      (.linked (.ofStream pipelinedAnswer (.closed ⟨0⟩))) fun result behind =>
        ∃ stream, result = .ok stream ∧ ∀ uses : List Use, 5 < uses.countP Use.asks →
          (Use.all uses stream .start).Ensures behind fun outcome _ =>
            ∃ final account, outcome = .ok (final, account) ∧ account.got = utf8 "hello" ∧
              account.puts.map Prod.fst = uses.flatMap Use.writes ∧
              Carried account.puts (uses.flatMap Use.writes).flatten := by
  have opened : (openTunnel ⟨"db", 9042⟩ none .default ⟨0⟩
      (.linked (.ofStream pipelinedAnswer (.closed ⟨0⟩)))).1.toOption =
        some (.tunneled ⟨utf8 "hello", ⟨0⟩⟩) := by
    decide +kernel
  have ends : behindHead pipelinedAnswer = some (utf8 "hello") := by
    decide +kernel
  have size : (utf8 "hello").length = 5 := by
    decide +kernel
  have carries := tunnel_carries_all_bytes (Peer.ofStream_plays pipelinedAnswer).delivers
    (World.linked_talks _) ⟨"db", 9042⟩ none .default
  cases run : openTunnel ⟨"db", 9042⟩ none .default ⟨0⟩
      (.linked (.ofStream pipelinedAnswer (.closed ⟨0⟩))) with
  | mk result behind =>
      rw [run] at opened
      apply Dial.ensures_of_eq run
      cases result with
      | error abort => cases opened
      | ok stream =>
          refine ⟨stream, rfl, ?_⟩
          intro uses enough
          refine (carries.of_run run stream rfl uses).mono ?_
          rintro outcome last ⟨held, account, carried, sent, received, payload, same, written,
            puts, -, -, there, -, complete, meetsEnd, arrives⟩
          rw [ends] at there
          cases there
          rw [← size] at enough
          rw [arrives (Peer.ofStream_takesAll pipelinedAnswer _)] at puts
          exact ⟨_, account, same,
            complete (meetsEnd _ _ (Peer.ofStream_plays pipelinedAnswer) enough), written, puts⟩

end Http

end ProxyDial
