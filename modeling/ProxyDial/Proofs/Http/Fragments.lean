import ProxyDial.Proofs.Http.Prefix
import ProxyDial.Proofs.Net.Ending

set_option autoImplicit false

/-! How the answer of an HTTP proxy is cut into pieces does not matter. After every piece the answer
is read again from its start, so what counts is that a verdict on a part of the answer is the
verdict on all of it. Where the answer has no verdict, its end or the silence behind it decides. -/

namespace ProxyDial
open Text

/-- The peer sends pieces, one after the other, and then ends. -/
def Peer.Feeds (peer : Peer) (said : Bytes) (ending : Ending) (lag : Duration) :
    (received : Nat) → (pieces : List (Duration × Bytes)) → Prop
  | received, [] => peer.next said received = ending.arrival lag
  | received, (delay, bytes) :: pieces =>
      peer.next said received = .data delay bytes ∧
        peer.Feeds said ending lag (received + bytes.length) pieces

def joined (pieces : List (Duration × Bytes)) : Bytes := pieces.flatMap Prod.snd

namespace Http

/-- Up to the one that decides the answer, the pieces come before the deadline, and so does the
ending where none of them decides it. The clock is looked at in front of each of them, and a pause
follows. -/
def ComesBy (deadline : Instant) (lag : Duration) (pauses : Nat → Duration) :
    (looks : Nat) → (now : Instant) → (answer : Bytes) → (pieces : List (Duration × Bytes)) → Prop
  | _, now, _, [] => (now.later lag).nanoseconds < deadline.nanoseconds
  | looks, now, answer, (delay, bytes) :: pieces =>
      (now.later delay).nanoseconds < deadline.nanoseconds ∧
        (Undecided (ResponseHead.ofBytes (answer ++ bytes)) →
          ComesBy deadline lag pauses (looks + 1) ((now.later (pauses looks)).later delay)
            (answer ++ bytes) pieces)

/-- The same, from here on. -/
def InTime (deadline : Instant) (lag : Duration) (world : World) (answer : Bytes)
    (pieces : List (Duration × Bytes)) : Prop :=
  ComesBy deadline lag world.watch.pauses world.watch.asks.length world.now answer pieces

/-- The error of an answer that ends without a verdict. -/
def unfinished : Ending → Error
  | .hangsUp => .protocol
      (.malformedResponse "proxy closed the connection before completing its response")
  | .keepsSilent => .ofHandshakeFault .notReady

/-- What a whole reply tells: an error, or the first bytes of the tunnel. -/
def told (destination : Destination) (reply : Bytes) (ending : Ending) : Except Error Bytes :=
  match verdict destination reply with
  | .ok (some payload) => .ok payload
  | .ok none => .error (unfinished ending)
  | .error error => .error error

/-- A reply that is decided before it is too long, or that ends before it is. -/
def Fits (reply : Bytes) : Prop :=
  reply.length < maxHeadLength ∨ ¬ Undecided (ResponseHead.ofBytes (reply.take maxHeadLength))

/-- A part of such a reply that is not yet decided is not too long. -/
theorem Fits.short {reply answer : Bytes} (fits : Fits reply) (part : answer <+: reply)
    (undecided : Undecided (ResponseHead.ofBytes answer)) : answer.length < maxHeadLength := by
  rcases fits with short | decided
  · exact Nat.lt_of_le_of_lt part.length_le short
  · apply Nat.lt_of_not_le
    intro long
    have start : reply.take maxHeadLength <+: answer :=
      List.prefix_of_prefix_length_le (List.take_prefix _ reply) part
        (Nat.le_trans (List.length_take_le _ reply) long)
    obtain ⟨more, whole⟩ := start
    have same := ResponseHead.ofBytes_append decided more
    rw [whole] at same
    exact decided (same.symm.trans undecided)

theorem verdict_ne_none {destination : Destination} {answer : Bytes}
    (decided : ¬ Undecided (ResponseHead.ofBytes answer)) :
    verdict destination answer ≠ .ok none := by
  intro none
  unfold verdict at none
  cases read : ResponseHead.ofBytes answer with
  | ok head =>
      rw [read] at none
      dsimp only at none
      split at none
      · cases none
      · cases none
  | error unread =>
      cases unread with
      | incomplete => exact decided read
      | malformed problem =>
          rw [read] at none
          cases none

theorem told_of_undecided {destination : Destination} {reply : Bytes} (ending : Ending)
    (undecided : Undecided (ResponseHead.ofBytes reply)) (short : reply.length < maxHeadLength) :
    told destination reply ending = .error (unfinished ending) := by
  unfold told
  rw [verdict_of_undecided undecided short]

/-- A part of a reply that is decided tells what the whole reply tells. -/
theorem told_of_decided {destination : Destination} {answer reply rest : Bytes} (ending : Ending)
    (decided : ¬ Undecided (ResponseHead.ofBytes answer)) (split : answer ++ rest = reply) :
    (∃ error, verdict destination answer = .error error ∧
        told destination reply ending = .error error) ∨
      ∃ held, verdict destination answer = .ok (some held) ∧
        told destination reply ending = .ok (held ++ rest) := by
  subst split
  unfold told
  rw [verdict_append decided]
  cases judged : verdict destination answer with
  | error error => exact .inl ⟨error, rfl, rfl⟩
  | ok meaning =>
      cases meaning with
      | none => exact absurd judged (verdict_ne_none decided)
      | some held => exact .inr ⟨held, rfl, rfl⟩

section
variable {socket : Socket} {peer : Peer} {said : Bytes} {world : World} {options : DialOptions}
  {deadline : Instant} {reply : Bytes} {ending : Ending} {lag : Duration}

theorem budget_of_comesBy {now : Instant} {delay : Duration}
    (has : options.deadline = some deadline)
    (inTime : (now.later delay).nanoseconds < deadline.nanoseconds) :
    ∃ left, options.budget now = .ok left ∧ delay.nanoseconds < left.nanoseconds := by
  unfold Instant.later at inTime
  dsimp only at inTime
  refine ⟨deadline.remaining now, ?_, ?_⟩
  · rw [DialOptions.budget_eq has, if_pos (by omega)]
  · unfold Instant.remaining
    dsimp only
    omega

/-- What is in time behind a piece is in time in the world behind it. -/
theorem InTime.behind {behind : World} {delay : Duration} {answer : Bytes}
    {pieces : List (Duration × Bytes)}
    (inTime : ComesBy deadline lag world.watch.pauses (world.watch.asks.length + 1)
      ((world.now.later (world.watch.pauses world.watch.asks.length)).later delay) answer pieces)
    (later : (world.looked .draws options).Later delay behind) :
    InTime deadline lag behind answer pieces := by
  have looks : (world.looked .draws options).watch.asks.length = world.watch.asks.length + 1 :=
    List.length_append
  unfold InTime
  rw [later.now, later.watch, looks]
  exact inTime

/-- The answer ends as the whole reply tells. What has not been read of it is still to come. -/
def AnswerEnds (socket : Socket) (peer : Peer) (said reply : Bytes) (told : Except Error Bytes)
    (result : Except Abort Bytes) (behind : World) : Prop :=
  match told with
  | .error error => result = .error (.failed error)
  | .ok payload => ∃ held received, result = .ok held ∧
      socket.Talks peer said received behind ∧ held ++ reply.drop received = payload

/-- A read that is in time meets what the peer has for it. -/
theorem ensures_meet {arrival : Arrival} {left delay : Duration} {received : Nat}
    {met : Except Fault Bytes} {post : Except Abort Bytes → World → Prop}
    {next : Except Fault Bytes → Dial Bytes} (talks : socket.Talks peer said received world)
    (arrives : peer.next said received = arrival) (budget : options.budget world.now = .ok left)
    (meets : arrival.meets (some left) chunkLength = (met, delay))
    (goes : ∀ behind, (∀ bytes, met = .ok bytes →
        socket.Talks peer said (received + bytes.length) behind ∧
          (world.looked .draws options).Later delay behind) → (next met).Ensures behind post) :
    Dial.Ensures (do
      socket.setReadLimit (some (← Dial.budget options))
      next (← socket.read chunkLength)) world post := by
  subst arrives
  apply Socket.ensures_hear (by decide) talks
  case expired =>
    intro error expired
    rw [budget] at expired
    cases expired
  case failed =>
    intro left' fault behind budget' failed stillTalks
    rw [budget] at budget'
    cases budget'
    rw [meets] at failed
    have same : met = .error fault := failed
    rw [same] at goes
    exact goes behind nofun
  case heard =>
    intro left' bytes delay' behind budget' heard further later
    rw [budget] at budget'
    cases budget'
    rw [meets] at heard
    cases heard
    apply goes
    rintro _ ⟨⟩
    exact ⟨further, later⟩

/-- A piece that comes in time makes the answer longer, and then the verdict on that decides. -/
theorem readAnswer_piece {destination : Destination} {answer bytes : Bytes} {delay : Duration}
    {room : Nat} {post : Except Abort Bytes → World → Prop}
    (has : options.deadline = some deadline)
    (sized : bytes ≠ [] ∧ bytes.length ≤ chunkLength)
    (talks : socket.Talks peer said answer.length world)
    (arrives : peer.next said answer.length = .data delay bytes)
    (soon : (world.now.later delay).nanoseconds < deadline.nanoseconds)
    (judges : ∀ behind, socket.Talks peer said (answer ++ bytes).length behind →
      (world.looked .draws options).Later delay behind → Dial.Ensures (do
        match ← Dial.ofExcept (verdict destination (answer ++ bytes)) with
        | some held => return held
        | none => readAnswer destination options socket room (answer ++ bytes)) behind post) :
    (readAnswer destination options socket (room + 1) answer).Ensures world post := by
  obtain ⟨notEmpty, small⟩ := sized
  have longer : (answer ++ bytes).length = answer.length + bytes.length := List.length_append
  have someBytes : bytes.isEmpty = false := by simpa using notEmpty
  obtain ⟨left, budget, quick⟩ := budget_of_comesBy has soon
  have meets : (Arrival.data delay bytes).meets (some left) chunkLength = (.ok bytes, delay) := by
    rw [Arrival.meets_data quick, List.take_of_length_le small]
  unfold readAnswer
  apply ensures_meet talks arrives budget meets
  intro behind heard
  obtain ⟨further, later⟩ := heard bytes rfl
  rw [← longer] at further
  apply Dial.ensures_bind_of_eq rfl
  dsimp only
  rw [someBytes]
  exact judges behind further later

theorem readAnswer_tells (has : options.deadline = some deadline) (destination : Destination)
    (fits : Fits reply) (pieces : List (Duration × Bytes))
    (sizes : ∀ piece ∈ pieces, piece.2 ≠ [] ∧ piece.2.length ≤ chunkLength) {answer : Bytes}
    {room : Nat} (enough : maxHeadLength < room + answer.length)
    (undecided : Undecided (ResponseHead.ofBytes answer)) (split : answer ++ joined pieces = reply)
    (talks : socket.Talks peer said answer.length world)
    (feeds : peer.Feeds said ending lag answer.length pieces)
    (inTime : InTime deadline lag world answer pieces) :
    (readAnswer destination options socket room answer).Ensures world
      (AnswerEnds socket peer said reply (told destination reply ending)) := by
  induction pieces generalizing answer room world with
  | nil =>
      have whole : answer = reply := by rwa [joined, List.flatMap_nil, List.append_nil] at split
      subst whole
      have short := fits.short (List.prefix_refl answer) undecided
      obtain ⟨room, rfl⟩ : ∃ fewer, room = fewer + 1 := ⟨room - 1, by omega⟩
      obtain ⟨left, budget, quick⟩ := budget_of_comesBy has inTime
      rw [told_of_undecided ending undecided short]
      unfold readAnswer
      cases ending with
      | hangsUp =>
          have meets : (Arrival.closed lag).meets (some left) chunkLength = (.ok [], lag) :=
            if_pos quick
          apply ensures_meet talks feeds budget meets
          intro behind _
          exact Dial.ensures_bind_of_eq rfl (Dial.ensures_fail rfl)
      | keepsSilent =>
          have meets : Arrival.silence.meets (some left) chunkLength = (.error .notReady, left) :=
            rfl
          apply ensures_meet talks feeds budget meets
          intro behind _
          exact Dial.ensures_bind (Dial.ensures_fail rfl)
  | cons piece pieces ih =>
      obtain ⟨delay, bytes⟩ := piece
      obtain ⟨next, feeds⟩ := feeds
      obtain ⟨soon, later⟩ := inTime
      have sized : bytes ≠ [] ∧ bytes.length ≤ chunkLength :=
        sizes (delay, bytes) List.mem_cons_self
      have positive := List.length_pos_iff.mpr sized.1
      have short := fits.short ⟨_, split⟩ undecided
      have split : (answer ++ bytes) ++ joined pieces = reply := by
        rw [← split, joined, joined, List.flatMap_cons, List.append_assoc]
      have longer : (answer ++ bytes).length = answer.length + bytes.length := List.length_append
      obtain ⟨room, rfl⟩ : ∃ fewer, room = fewer + 1 := ⟨room - 1, by omega⟩
      apply readAnswer_piece has sized talks next soon
      intro behind further passes
      rw [← longer] at feeds
      by_cases open' : Undecided (ResponseHead.ofBytes (answer ++ bytes))
      · have stillShort := fits.short ⟨_, split⟩ open'
        have stillRoom : maxHeadLength < room + (answer ++ bytes).length := by omega
        rw [verdict_of_undecided open' stillShort]
        apply Dial.ensures_bind_of_eq rfl
        exact ih (fun other member => sizes other (List.mem_cons_of_mem _ member)) stillRoom open'
          split further feeds (InTime.behind (later open') passes)
      · rcases told_of_decided ending open' split with
          ⟨error, judged, refused⟩ | ⟨held, judged, granted⟩
        · rw [judged, refused]
          exact Dial.ensures_bind (Dial.ensures_fail rfl)
        · have unread : reply.drop (answer ++ bytes).length = joined pieces := by
            rw [← split, List.drop_left]
          rw [judged, granted]
          apply Dial.ensures_bind_of_eq rfl
          exact Dial.ensures_pure ⟨held, _, rfl, further, by rw [unread]⟩

theorem ComesBy.before {pauses : Nat → Duration} {looks : Nat} {now : Instant} {answer : Bytes}
    {pieces : List (Duration × Bytes)}
    (inTime : ComesBy deadline lag pauses looks now answer pieces) :
    now.nanoseconds < deadline.nanoseconds := by
  have bound (delay : Duration) (later : (now.later delay).nanoseconds < deadline.nanoseconds) :
      now.nanoseconds < deadline.nanoseconds :=
    Nat.lt_of_le_of_lt (Nat.le_add_right _ delay.nanoseconds) later
  cases pieces with
  | nil => exact bound lag inTime
  | cons piece pieces => exact bound piece.1 inTime.1

end

/-- A proxy that takes a request and gives a reply, in pieces of its own, and a socket that leads to
it. The request takes its time as well. -/
structure Delivery (request reply : Bytes) (ending : Ending) where
  world : World
  socket : Socket
  peer : Peer
  said : Bytes
  options : DialOptions
  started : DialOptions
  deadline : Instant
  pieces : List (Duration × Bytes)
  lag : Duration
  written : Duration
  talks : socket.Talks peer said 0 world
  starts : options.started? world.now = some started
  has : started.deadline = some deadline
  takes : peer.outflow (some (deadline.remaining (world.looked .starts options).now)) 0 0 request
    said = ⟨said ++ request, .ok (), written⟩
  whole : joined pieces = reply
  sizes : ∀ piece ∈ pieces, piece.2 ≠ [] ∧ piece.2.length ≤ chunkLength
  feeds : peer.Feeds (said ++ request) ending lag 0 pieces
  inTime : InTime deadline lag
    (((world.looked .starts options).looked .draws started).wait written) [] pieces

namespace Delivery

variable {destination : Destination} {authorization : Option String} {reply : Bytes}
  {ending : Ending}

/-- The tunnel is refused with an error; or it is opened, and its bytes are those that are held back
and then those that are still to come. -/
def EndsWith {request : Bytes} (delivery : Delivery request reply ending)
    (destination : Destination) (authorization : Option String)
    (told : Except Error Bytes) : Prop :=
  (openTunnel destination authorization delivery.options delivery.socket).Ensures delivery.world
    fun result behind =>
      match told with
      | .error error => result = .error (.failed error)
      | .ok payload => ∃ held received,
          result = .ok (.tunneled ⟨held, delivery.socket⟩) ∧
          delivery.socket.Talks delivery.peer (delivery.said ++ request) received behind ∧
          held ++ reply.drop received = payload

/-- The request is sent in time. -/
theorem asks (delivery : Delivery (utf8 (requestHead destination authorization)) reply ending)
    {post : Except Abort Bytes → World → Prop}
    (answers : ∀ behind, delivery.socket.Talks delivery.peer
        (delivery.said ++ utf8 (requestHead destination authorization)) 0 behind →
      InTime delivery.deadline delivery.lag behind [] delivery.pieces →
      (readAnswer destination delivery.started delivery.socket (maxHeadLength + 1) []).Ensures
        behind post) :
    (handshake destination authorization delivery.started delivery.socket).Ensures
      (delivery.world.looked .starts delivery.options) post := by
  have before : (delivery.world.looked .starts delivery.options).now.nanoseconds <
      delivery.deadline.nanoseconds := by
    have atEnd := delivery.inTime.before
    have paused := World.le_looked .draws delivery.started
      (delivery.world.looked .starts delivery.options)
    unfold World.wait at atEnd
    dsimp only at atEnd
    omega
  have left : delivery.started.budget (delivery.world.looked .starts delivery.options).now =
      .ok (delivery.deadline.remaining (delivery.world.looked .starts delivery.options).now) := by
    rw [DialOptions.budget_eq delivery.has, if_pos before]
  apply Socket.ensures_say_whole (delivery.talks.looked .starts delivery.options) left
    delivery.takes
  intro behind talks later
  apply Dial.ensures_bind_of_eq rfl
  apply answers behind talks
  unfold InTime
  rw [later.now, later.watch]
  exact delivery.inTime

/-- The tunnel ends as its answer does, whatever that is told by. -/
theorem endsWith_of_answer {told : Except Error Bytes}
    (delivery : Delivery (utf8 (requestHead destination authorization)) reply ending)
    (answers : ∀ behind, delivery.socket.Talks delivery.peer
        (delivery.said ++ utf8 (requestHead destination authorization)) 0 behind →
      InTime delivery.deadline delivery.lag behind [] delivery.pieces →
      (readAnswer destination delivery.started delivery.socket (maxHeadLength + 1) []).Ensures
        behind (AnswerEnds delivery.socket delivery.peer
          (delivery.said ++ utf8 (requestHead destination authorization)) reply told)) :
    delivery.EndsWith destination authorization told := by
  apply Dial.ensures_bind_of_eq (Dial.started_run_of delivery.starts)
  apply Dial.ensures_attempt
  refine (delivery.asks answers).mono ?_
  intro result behind ends
  cases told with
  | error error =>
      have failed : result = .error (.failed error) := ends
      subst failed
      apply Dial.ensures_bind_of_eq (rfl : delivery.socket.close behind = (.ok (), _))
      exact Dial.ensures_fail rfl
  | ok payload =>
      obtain ⟨held, received, returned, talks, conserved⟩ := ends
      subst returned
      apply talks.ensures_unlimited
      intro unlimited stillTalks
      exact ⟨held, received, rfl, stillTalks, conserved⟩

theorem openTunnel_tells (fits : Fits reply)
    (delivery : Delivery (utf8 (requestHead destination authorization)) reply ending) :
    delivery.EndsWith destination authorization (told destination reply ending) := by
  apply delivery.endsWith_of_answer
  intro behind talks inTime
  exact readAnswer_tells delivery.has destination fits delivery.pieces delivery.sizes
    (Nat.lt_succ_self _) rfl delivery.whole talks delivery.feeds inTime

/-- Two deliveries of one reply come to the same end. It is what the whole reply tells. -/
theorem openTunnel_ignores_fragments (fits : Fits reply)
    (one other : Delivery (utf8 (requestHead destination authorization)) reply ending) :
    one.EndsWith destination authorization (told destination reply ending) ∧
      other.EndsWith destination authorization (told destination reply ending) :=
  ⟨one.openTunnel_tells fits, other.openTunnel_tells fits⟩

/-- What a read meets, after so many bytes, when the pieces come at once, one for each read. -/
def arrivalIn (ending : Ending) : (pieces : List Bytes) → (received : Nat) → Arrival
  | [], _ => ending.arrival ⟨0⟩
  | bytes :: pieces, received =>
      if received < bytes.length then .data ⟨0⟩ (bytes.drop received)
      else arrivalIn ending pieces (received - bytes.length)

theorem arrivalIn_behind (ending : Ending) (early late : List Bytes) (received : Nat) :
    arrivalIn ending (early ++ late) (early.flatten.length + received) =
      arrivalIn ending late received := by
  induction early generalizing received with
  | nil => simp
  | cons bytes early ih =>
      have past : ¬ (bytes :: early).flatten.length + received < bytes.length := by
        rw [List.flatten_cons, List.length_append]
        omega
      have rest : (bytes :: early).flatten.length + received - bytes.length =
          early.flatten.length + received := by
        rw [List.flatten_cons, List.length_append]
        omega
      rw [List.cons_append, arrivalIn, if_neg past, rest, ih]

def peerOf (ending : Ending) (pieces : List Bytes) : Peer where
  next _ received := arrivalIn ending pieces received
  takes _ _ := .taken ⟨0⟩ 0
  server? _ _ := none

private theorem peerOf_feeds (said : Bytes) (ending : Ending) (early late : List Bytes)
    (notEmpty : ∀ bytes ∈ late, bytes ≠ []) :
    (peerOf ending (early ++ late)).Feeds said ending ⟨0⟩ early.flatten.length
      (late.map fun bytes => (⟨0⟩, bytes)) := by
  induction late generalizing early with
  | nil => exact arrivalIn_behind ending early [] 0
  | cons bytes late ih =>
      constructor
      · have here := arrivalIn_behind ending early (bytes :: late) 0
        have positive := List.length_pos_iff.mpr (notEmpty bytes List.mem_cons_self)
        rw [Nat.add_zero, arrivalIn, if_pos positive] at here
        exact here
      · have later := ih (early ++ [bytes]) fun other member =>
          notEmpty other (List.mem_cons_of_mem _ member)
        simpa using later

private theorem comesBy_at_once {deadline now : Instant}
    (before : now.nanoseconds < deadline.nanoseconds) (looks : Nat) (answer : Bytes)
    (pieces : List Bytes) :
    ComesBy deadline ⟨0⟩ (fun _ => ⟨0⟩) looks now answer
      (pieces.map fun bytes => (⟨0⟩, bytes)) := by
  induction pieces generalizing looks answer with
  | nil => exact before
  | cons bytes pieces ih => exact ⟨before, fun _ => ih (looks + 1) (answer ++ bytes)⟩

/-- However a reply is cut, some proxy gives it so. -/
def ofPieces (request : Bytes) (ending : Ending) (pieces : List Bytes)
    (whole : pieces.flatten = reply)
    (sizes : ∀ bytes ∈ pieces, bytes ≠ [] ∧ bytes.length ≤ chunkLength) :
    Delivery request reply ending where
  world := .linked (peerOf ending pieces)
  socket := ⟨0⟩
  peer := peerOf ending pieces
  said := []
  options := .default
  started := DialOptions.default.withDeadline ⟨30 * Duration.perSecond⟩
  deadline := ⟨30 * Duration.perSecond⟩
  pieces := pieces.map fun bytes => (⟨0⟩, bytes)
  lag := ⟨0⟩
  written := ⟨0⟩
  talks := World.linked_talks _
  starts := by
    have starts : DialOptions.default.started? ⟨0⟩ =
        some (DialOptions.default.withDeadline ⟨30 * Duration.perSecond⟩) := by decide
    exact starts
  has := rfl
  takes := by
    have takes : (peerOf ending pieces).TakesAll := fun _ _ => ⟨0, rfl⟩
    apply takes.outflow
    have positive : 0 < 30 * Duration.perSecond - 0 := by decide
    rintro left ⟨⟩
    exact positive
  whole := by
    rw [← whole, joined, List.flatMap_map]
    simp
  sizes := by
    intro piece member
    obtain ⟨bytes, there, same⟩ := List.mem_map.mp member
    rw [← same]
    exact sizes bytes there
  feeds := peerOf_feeds _ ending [] pieces fun bytes member => (sizes bytes member).1
  inTime := by
    have before : (⟨0⟩ : Instant).nanoseconds < 30 * Duration.perSecond := by decide
    exact comesBy_at_once before 2 [] pieces

end Delivery

def grantedAnswer : Bytes := utf8 "HTTP/1.1 200 OK\r\nVia: proxy\r\n\r\nhello"

/-- Whether the answer comes whole or byte by byte, the tunnel starts with the bytes behind it. -/
theorem tunnel_opens_byte_by_byte :
    ∃ whole bytewise : Delivery (utf8 (requestHead ⟨"db", 9042⟩ none)) grantedAnswer .keepsSilent,
      whole.pieces.length = 1 ∧ bytewise.pieces.length = 36 ∧ Fits grantedAnswer ∧
      whole.EndsWith ⟨"db", 9042⟩ none (.ok (utf8 "hello")) ∧
      bytewise.EndsWith ⟨"db", 9042⟩ none (.ok (utf8 "hello")) := by
  have fits : Fits grantedAnswer := .inl (by decide +kernel)
  have tells : told ⟨"db", 9042⟩ grantedAnswer .keepsSilent = .ok (utf8 "hello") := by
    decide +kernel
  have small : ∀ bytes ∈ [grantedAnswer], bytes ≠ [] ∧ bytes.length ≤ chunkLength := by
    decide +kernel
  have bytes : (grantedAnswer.map fun byte => [byte]).flatten = grantedAnswer := by decide +kernel
  have single : ∀ bytes ∈ grantedAnswer.map fun byte => [byte],
      bytes ≠ [] ∧ bytes.length ≤ chunkLength := by decide +kernel
  let whole := Delivery.ofPieces (utf8 (requestHead ⟨"db", 9042⟩ none)) .keepsSilent
    [grantedAnswer] (List.flatten_singleton) small
  let bytewise := Delivery.ofPieces (utf8 (requestHead ⟨"db", 9042⟩ none)) .keepsSilent
    (grantedAnswer.map fun byte => [byte]) bytes single
  have both := Delivery.openTunnel_ignores_fragments fits whole bytewise
  rw [tells] at both
  have count : bytewise.pieces.length = 36 := by
    change ((grantedAnswer.map fun byte => [byte]).map fun bytes =>
      ((⟨0⟩ : Duration), bytes)).length = 36
    decide +kernel
  exact ⟨whole, bytewise, rfl, count, fits, both⟩

end Http

end ProxyDial
