import ProxyDial.Proofs.Http.Fragments
import ProxyDial.Proofs.Http.HeadTaken
import ProxyDial.Proofs.Http.Truncated

set_option autoImplicit false

/-! The limit for the head of an answer. It is held against what has been read so far, and only
after a read that leaves the head incomplete. A head that is too long is refused if some read ends
behind the limit and within the head, and it is let through if no read does. -/

namespace ProxyDial.Http
open Text

/-- The lengths that an answer has after each of its pieces. -/
def lengthsAfter (length : Nat) : (pieces : List (Duration × Bytes)) → List Nat
  | [] => []
  | piece :: pieces =>
      (length + piece.2.length) :: lengthsAfter (length + piece.2.length) pieces

theorem lengthsAfter_append (length : Nat) (early late : List (Duration × Bytes)) :
    lengthsAfter length (early ++ late) =
      lengthsAfter length early ++ lengthsAfter (length + (joined early).length) late := by
  induction early generalizing length with
  | nil => rfl
  | cons piece early ih =>
      rw [List.cons_append, lengthsAfter, lengthsAfter, ih, joined, joined, List.flatMap_cons,
        List.length_append, Nat.add_assoc, List.cons_append]

theorem le_of_mem_lengthsAfter {start length : Nat} {pieces : List (Duration × Bytes)}
    (member : length ∈ lengthsAfter start pieces) :
    start ≤ length ∧ length ≤ start + (joined pieces).length := by
  induction pieces generalizing start with
  | nil => cases member
  | cons piece pieces ih =>
      have whole : (joined (piece :: pieces)).length = piece.2.length + (joined pieces).length := by
        rw [joined, List.flatMap_cons, List.length_append]
        rfl
      rcases List.mem_cons.mp member with rfl | later
      · omega
      · have bounds := ih later
        omega

/-- The length of all pieces is the last one. -/
theorem mem_lengthsAfter (start : Nat) {pieces : List (Duration × Bytes)} (notEmpty : pieces ≠ []) :
    start + (joined pieces).length ∈ lengthsAfter start pieces := by
  induction pieces generalizing start with
  | nil => exact absurd rfl notEmpty
  | cons piece pieces ih =>
      rw [joined, List.flatMap_cons, List.length_append, ← Nat.add_assoc, lengthsAfter]
      by_cases last : pieces = []
      · subst last
        exact List.mem_cons_self
      · exact List.mem_cons_of_mem _ (ih _ last)

/-- No piece is longer than a read, so that one of them ends less than a read behind any bound. -/
theorem exists_mem_lengthsAfter {start bound : Nat} {pieces : List (Duration × Bytes)}
    (small : ∀ piece ∈ pieces, piece.2.length ≤ chunkLength) (below : start < bound)
    (beyond : bound ≤ start + (joined pieces).length) :
    ∃ length ∈ lengthsAfter start pieces, bound ≤ length ∧ length < bound + chunkLength := by
  induction pieces generalizing start with
  | nil =>
      rw [joined, List.flatMap_nil, List.length_nil] at beyond
      omega
  | cons piece pieces ih =>
      rw [joined, List.flatMap_cons, List.length_append, ← Nat.add_assoc] at beyond
      rw [lengthsAfter]
      by_cases past : bound ≤ start + piece.2.length
      · have fits := small piece List.mem_cons_self
        exact ⟨start + piece.2.length, List.mem_cons_self, past, by omega⟩
      · have others : ∀ other ∈ pieces, other.2.length ≤ chunkLength :=
          fun other member => small other (List.mem_cons_of_mem _ member)
        obtain ⟨length, member, bounds⟩ := ih others (Nat.lt_of_not_le past) beyond
        exact ⟨length, List.mem_cons_of_mem _ member, bounds⟩

def headTooLong : Error :=
  .protocol (.malformedResponse ("response head exceeds " ++ toString maxHeadLength ++ " bytes"))

/-- What a granting reply tells that has these lengths on the way. -/
def limited (head : ResponseHead) (reply : Bytes) (lengths : List Nat) : Except Error Bytes :=
  if ∃ length ∈ lengths, maxHeadLength ≤ length ∧ length < head.length then .error headTooLong
  else .ok (reply.drop head.length)

section
variable {head : ResponseHead} {reply : Bytes} {length : Nat} {lengths : List Nat}

theorem limited_of_none (none : ∀ length ∈ lengths, maxHeadLength ≤ length → head.length ≤ length) :
    limited head reply lengths = .ok (reply.drop head.length) := by
  apply if_neg
  rintro ⟨length, member, long, within⟩
  have past := none length member long
  omega

theorem limited_of_mem (member : length ∈ lengths) (long : maxHeadLength ≤ length)
    (within : length < head.length) : limited head reply lengths = .error headTooLong :=
  if_pos ⟨length, member, long, within⟩

/-- Once the head is complete, the lengths that follow do not matter. -/
theorem limited_of_whole {pieces : List (Duration × Bytes)} (whole : head.length ≤ length) :
    limited head reply (length :: lengthsAfter length pieces) = .ok (reply.drop head.length) := by
  apply limited_of_none
  intro other member _
  rcases List.mem_cons.mp member with rfl | later
  · exact whole
  · exact Nat.le_trans whole (le_of_mem_lengthsAfter later).1

theorem limited_cons (short : length < maxHeadLength) :
    limited head reply (length :: lengths) = limited head reply lengths := by
  have allowed : ¬ (maxHeadLength ≤ length ∧ length < head.length) := by omega
  unfold limited
  simp [allowed]

end

section
variable {answer reply : Bytes} {head : ResponseHead}

/-- What a part of a granting reply means, by its length. -/
theorem verdict_of_part (destination : Destination)
    (read : ResponseHead.ofBytes reply = .ok head) (granted : head.code = 200)
    (part : answer <+: reply) :
    verdict destination answer =
      if head.length ≤ answer.length then .ok (some (answer.drop head.length))
      else if maxHeadLength ≤ answer.length then .error headTooLong
      else .ok none := by
  split
  next whole =>
    unfold verdict
    rw [ResponseHead.ofBytes_of_long read part whole]
    exact if_pos granted
  next within =>
    have undecided : ResponseHead.ofBytes answer = .error .incomplete :=
      ResponseHead.undecided_of_short read part (Nat.lt_of_not_le within)
    unfold verdict
    rw [undecided]
    rfl

variable {socket : Socket} {peer : Peer} {said : Bytes} {world : World} {options : DialOptions}
  {deadline : Instant} {ending : Ending} {lag : Duration}

theorem readAnswer_limited (destination : Destination) (has : options.deadline = some deadline)
    (read : ResponseHead.ofBytes reply = .ok head) (granted : head.code = 200)
    (pieces : List (Duration × Bytes))
    (sizes : ∀ piece ∈ pieces, piece.2 ≠ [] ∧ piece.2.length ≤ chunkLength) {room : Nat}
    (enough : maxHeadLength < room + answer.length) (within : answer.length < head.length)
    (short : answer.length < maxHeadLength) (split : answer ++ joined pieces = reply)
    (talks : socket.Talks peer said answer.length world)
    (feeds : peer.Feeds said ending lag answer.length pieces)
    (inTime : InTime deadline lag world answer pieces) :
    (readAnswer destination options socket room answer).Ensures world
      (AnswerEnds socket peer said reply
        (limited head reply (lengthsAfter answer.length pieces))) := by
  -- On the way the answer stays shorter than the head and than the limit. The piece that ends this
  -- completes the head, or else it passes the limit.
  induction pieces generalizing answer room world with
  | nil =>
      have whole : answer = reply := by rwa [joined, List.flatMap_nil, List.append_nil] at split
      subst whole
      have long := ResponseHead.length_le read
      omega
  | cons piece pieces ih =>
      obtain ⟨delay, bytes⟩ := piece
      obtain ⟨next, feeds⟩ := feeds
      obtain ⟨soon, later⟩ := inTime
      have sized : bytes ≠ [] ∧ bytes.length ≤ chunkLength :=
        sizes (delay, bytes) List.mem_cons_self
      have positive := List.length_pos_iff.mpr sized.1
      have split : (answer ++ bytes) ++ joined pieces = reply := by
        rw [← split, joined, joined, List.flatMap_cons, List.append_assoc]
      have longer : (answer ++ bytes).length = answer.length + bytes.length := List.length_append
      have judged := verdict_of_part destination read granted ⟨_, split⟩
      obtain ⟨room, rfl⟩ : ∃ fewer, room = fewer + 1 := ⟨room - 1, by omega⟩
      apply readAnswer_piece has sized talks next soon
      intro behind further passes
      rw [lengthsAfter]
      dsimp only
      rw [← longer] at feeds ⊢
      by_cases whole : head.length ≤ (answer ++ bytes).length
      · have unread : reply.drop (answer ++ bytes).length = joined pieces := by
          rw [← split, List.drop_left]
        rw [judged, if_pos whole, limited_of_whole whole]
        apply Dial.ensures_bind_of_eq rfl
        apply Dial.ensures_pure
        refine ⟨_, _, rfl, further, ?_⟩
        rw [unread, ← split, List.drop_append_of_le_length whole]
      · by_cases long : maxHeadLength ≤ (answer ++ bytes).length
        · rw [judged, if_neg whole, if_pos long,
            limited_of_mem List.mem_cons_self long (Nat.lt_of_not_le whole)]
          exact Dial.ensures_bind (Dial.ensures_fail rfl)
        · have within := Nat.lt_of_not_le whole
          have undecided := ResponseHead.undecided_of_short read ⟨_, split⟩ within
          rw [judged, if_neg whole, if_neg long, limited_cons (Nat.lt_of_not_le long)]
          apply Dial.ensures_bind_of_eq rfl
          exact ih (fun other member => sizes other (List.mem_cons_of_mem _ member)) (by omega)
            within (Nat.lt_of_not_le long) split further feeds
            (InTime.behind (later undecided) passes)

end

namespace Delivery

variable {destination : Destination} {authorization : Option String} {reply : Bytes}
  {ending : Ending} {head : ResponseHead}

theorem openTunnel_limited (read : ResponseHead.ofBytes reply = .ok head)
    (granted : head.code = 200)
    (delivery : Delivery (utf8 (requestHead destination authorization)) reply ending) :
    delivery.EndsWith destination authorization
      (limited head reply (lengthsAfter 0 delivery.pieces)) := by
  apply delivery.endsWith_of_answer
  intro behind talks inTime
  have filled : 0 < head.length := by
    apply Nat.pos_of_ne_zero
    intro empty
    have none := ResponseHead.ofBytes_of_long read List.nil_prefix (Nat.le_of_eq empty)
    cases none
  exact readAnswer_limited destination delivery.has read granted delivery.pieces delivery.sizes
    (Nat.lt_succ_self _) filled (by decide) delivery.whole talks delivery.feeds inTime

/-- A tunnel that is refused is not opened. -/
theorem EndsWith.refused {request payload : Bytes} {delivery : Delivery request reply ending}
    {error : Error} (refused : delivery.EndsWith destination authorization (.error error)) :
    ¬ delivery.EndsWith destination authorization (.ok payload) := by
  rintro ⟨held, received, opened, -⟩
  have failed : (openTunnel destination authorization delivery.options delivery.socket
    delivery.world).1 = .error (.failed error) := refused
  rw [opened] at failed
  cases failed

/-- A delivery in pieces that come without delay. -/
theorem exists_delivery (request : Bytes) (ending : Ending) {pieces : List Bytes}
    (whole : pieces.flatten = reply)
    (sizes : ∀ bytes ∈ pieces, bytes ≠ [] ∧ bytes.length ≤ chunkLength) :
    ∃ delivery : Delivery request reply ending,
      delivery.pieces = pieces.map fun bytes => (⟨0⟩, bytes) :=
  ⟨ofPieces request ending pieces whole sizes, rfl⟩

theorem joined_at_once (pieces : List Bytes) :
    joined (pieces.map fun bytes => (⟨0⟩, bytes)) = pieces.flatten := by
  rw [joined, List.flatMap_map]
  simp

/-- The bytes, each in a piece of its own. -/
def bytewise (bytes : Bytes) : List Bytes := bytes.map fun byte => [byte]

theorem bytewise_flatten (bytes : Bytes) : (bytewise bytes).flatten = bytes := by
  induction bytes with
  | nil => rfl
  | cons byte bytes ih => exact congrArg (byte :: ·) ih

theorem bytewise_sizes {bytes piece : Bytes} (member : piece ∈ bytewise bytes) :
    piece ≠ [] ∧ piece.length ≤ chunkLength := by
  obtain ⟨byte, -, rfl⟩ := List.mem_map.mp member
  exact ⟨List.cons_ne_nil _ _, Nat.le_add_left 1 4095⟩

/-- Byte by byte, a head beyond the limit is refused. -/
theorem exists_refused (destination : Destination) (authorization : Option String)
    (ending : Ending) (read : ResponseHead.ofBytes reply = .ok head)
    (granted : head.code = 200) (long : maxHeadLength < head.length) :
    ∃ delivery : Delivery (utf8 (requestHead destination authorization)) reply ending,
      delivery.EndsWith destination authorization (.error headTooLong) := by
  obtain ⟨delivery, pieces⟩ := exists_delivery (utf8 (requestHead destination authorization)) ending
    (bytewise_flatten reply) fun _ member => bytewise_sizes member
  have fits := ResponseHead.length_le read
  have cut : bytewise reply =
      bytewise (reply.take maxHeadLength) ++ bytewise (reply.drop maxHeadLength) := by
    rw [bytewise, bytewise, bytewise, ← List.map_append, List.take_append_drop]
  have length : (reply.take maxHeadLength).length = maxHeadLength := by
    rw [List.length_take]
    omega
  have early : (bytewise (reply.take maxHeadLength)).map
      (fun bytes => ((⟨0⟩ : Duration), bytes)) ≠ [] := by
    intro none
    have empty : reply.take maxHeadLength = [] := by simpa [bytewise] using none
    rw [empty] at length
    cases length
  have member := mem_lengthsAfter 0 early
  rw [joined_at_once, bytewise_flatten, length, Nat.zero_add] at member
  have ends := delivery.openTunnel_limited read granted
  rw [pieces, cut, List.map_append, lengthsAfter_append,
    limited_of_mem (List.mem_append_left _ member) (Nat.le_refl _) long] at ends
  exact ⟨delivery, ends⟩

/-- A reply in pieces of which one spans the limit: up to the last byte in front of the limit there
are single bytes, and then comes as much as a read takes. -/
def acrossLimit (reply : Bytes) : List Bytes :=
  bytewise (reply.take (maxHeadLength - 1)) ++
    (reply.drop (maxHeadLength - 1)).take chunkLength ::
      bytewise ((reply.drop (maxHeadLength - 1)).drop chunkLength)

theorem acrossLimit_flatten (reply : Bytes) : (acrossLimit reply).flatten = reply := by
  rw [acrossLimit, List.flatten_append, List.flatten_cons, bytewise_flatten, bytewise_flatten,
    List.take_append_drop, List.take_append_drop]

theorem spanning_length (reply : Bytes) :
    ((reply.drop (maxHeadLength - 1)).take chunkLength).length =
      min chunkLength (reply.length - (maxHeadLength - 1)) := by
  rw [List.length_take, List.length_drop]

theorem acrossLimit_sizes (long : maxHeadLength ≤ reply.length) {bytes : Bytes}
    (member : bytes ∈ acrossLimit reply) : bytes ≠ [] ∧ bytes.length ≤ chunkLength := by
  have spans := spanning_length reply
  have positive : 0 < chunkLength := by decide
  have edge : maxHeadLength - 1 < maxHeadLength := by decide
  rcases List.mem_append.mp member with before | after
  · exact bytewise_sizes before
  · rcases List.mem_cons.mp after with rfl | behind
    · constructor
      · apply List.ne_nil_of_length_pos
        omega
      · omega
    · exact bytewise_sizes behind

/-- The first length that reaches the limit is past all that a read may add to it. -/
theorem acrossLimit_lengths (long : maxHeadLength ≤ reply.length) {length : Nat}
    (member : length ∈ lengthsAfter 0 ((acrossLimit reply).map fun bytes => (⟨0⟩, bytes)))
    (past : maxHeadLength ≤ length) :
    min reply.length (maxHeadLength - 1 + chunkLength) ≤ length := by
  have spans := spanning_length reply
  have edge : maxHeadLength - 1 < maxHeadLength := by decide
  have early : (joined ((bytewise (reply.take (maxHeadLength - 1))).map
      fun bytes => ((⟨0⟩ : Duration), bytes))).length = maxHeadLength - 1 := by
    rw [joined_at_once, bytewise_flatten, List.length_take]
    omega
  rw [acrossLimit, List.map_append, List.map_cons, lengthsAfter_append, early, Nat.zero_add,
    lengthsAfter] at member
  dsimp only at member
  rw [spans] at member
  rcases List.mem_append.mp member with before | after
  · have bounds := le_of_mem_lengthsAfter before
    omega
  · rcases List.mem_cons.mp after with same | behind
    · omega
    · have bounds := le_of_mem_lengthsAfter behind
      omega

/-- A head less than a read beyond the limit is let through where one read spans the limit. -/
theorem exists_opened (destination : Destination) (authorization : Option String)
    (ending : Ending) (read : ResponseHead.ofBytes reply = .ok head)
    (granted : head.code = 200) (within : head.length < maxHeadLength + chunkLength) :
    ∃ delivery : Delivery (utf8 (requestHead destination authorization)) reply ending,
      delivery.EndsWith destination authorization (.ok (reply.drop head.length)) := by
  have fits := ResponseHead.length_le read
  by_cases short : reply.length < maxHeadLength
  · obtain ⟨delivery, -⟩ := exists_delivery (utf8 (requestHead destination authorization)) ending
      (bytewise_flatten reply) fun _ member => bytewise_sizes member
    have ends := delivery.openTunnel_limited read granted
    rw [limited_of_none fun length _ long => by omega] at ends
    exact ⟨delivery, ends⟩
  · have long := Nat.le_of_not_lt short
    obtain ⟨delivery, pieces⟩ := exists_delivery (utf8 (requestHead destination authorization))
      ending (acrossLimit_flatten reply) fun _ member => acrossLimit_sizes long member
    have allowed : ∀ length ∈ lengthsAfter 0 delivery.pieces,
        maxHeadLength ≤ length → head.length ≤ length := by
      intro length member past
      rw [pieces] at member
      have bound := acrossLimit_lengths long member past
      have edge : maxHeadLength - 1 + 1 = maxHeadLength := by decide
      omega
    have ends := delivery.openTunnel_limited read granted
    rw [limited_of_none allowed] at ends
    exact ⟨delivery, ends⟩

/-- The reads of a delivery decide whether a reply that grants the tunnel is taken. All deliveries
open the tunnel exactly if the head is within the limit, and some do exactly if the head is less
than a read beyond it. -/
theorem openTunnel_limits_reads (destination : Destination) (authorization : Option String)
    (ending : Ending) (read : ResponseHead.ofBytes reply = .ok head)
    (granted : head.code = 200) :
    (∀ delivery : Delivery (utf8 (requestHead destination authorization)) reply ending,
      delivery.EndsWith destination authorization
        (limited head reply (lengthsAfter 0 delivery.pieces))) ∧
    ((∀ delivery : Delivery (utf8 (requestHead destination authorization)) reply ending,
      delivery.EndsWith destination authorization (.ok (reply.drop head.length))) ↔
        head.length ≤ maxHeadLength) ∧
    ((∃ delivery : Delivery (utf8 (requestHead destination authorization)) reply ending,
      delivery.EndsWith destination authorization (.ok (reply.drop head.length))) ↔
        head.length < maxHeadLength + chunkLength) := by
  have ends (delivery : Delivery (utf8 (requestHead destination authorization)) reply ending) :=
    delivery.openTunnel_limited read granted
  refine ⟨ends, ⟨?_, ?_⟩, ⟨?_, exists_opened destination authorization ending read granted⟩⟩
  · intro opens
    by_contra long
    obtain ⟨delivery, refused⟩ :=
      exists_refused destination authorization ending read granted (Nat.lt_of_not_le long)
    exact refused.refused (opens delivery)
  · intro fits delivery
    have allowed : ∀ length ∈ lengthsAfter 0 delivery.pieces,
        maxHeadLength ≤ length → head.length ≤ length :=
      fun length _ long => Nat.le_trans fits long
    have opened := ends delivery
    rw [limited_of_none allowed] at opened
    exact opened
  · rintro ⟨delivery, opened⟩
    by_contra long
    have fits := ResponseHead.length_le read
    have beyond : maxHeadLength ≤ 0 + (joined delivery.pieces).length := by
      rw [delivery.whole]
      omega
    have small : ∀ piece ∈ delivery.pieces, piece.2.length ≤ chunkLength :=
      fun piece member => (delivery.sizes piece member).2
    obtain ⟨length, member, past, near⟩ := exists_mem_lengthsAfter small (by decide) beyond
    have refused := ends delivery
    rw [limited_of_mem member past (by omega)] at refused
    exact refused.refused opened

end Delivery

/-- A short head is let through in every delivery. -/
theorem short_head_opens_in_all_reads :
    ResponseHead.ofBytes grantedAnswer = .ok ⟨200, utf8 "OK", 31⟩ ∧
    ∀ delivery : Delivery (utf8 (requestHead ⟨"db", 9042⟩ none)) grantedAnswer .keepsSilent,
      delivery.EndsWith ⟨"db", 9042⟩ none (.ok (utf8 "hello")) := by
  have read : ResponseHead.ofBytes grantedAnswer = .ok ⟨200, utf8 "OK", 31⟩ := by decide +kernel
  have behind : grantedAnswer.drop 31 = utf8 "hello" := by decide +kernel
  obtain ⟨-, opens, -⟩ := Delivery.openTunnel_limits_reads ⟨"db", 9042⟩ none .keepsSilent read rfl
  rw [behind] at opens
  exact ⟨read, opens.mpr (by decide)⟩

/-- A granting answer with a header that is as long as wanted. -/
def paddedAnswer (padding : Nat) : Bytes :=
  utf8 "HTTP/1.1 200 OK\r\n" ++
    (utf8 "Via: " ++ (List.replicate padding 0x78 ++ utf8 "\r\n\r\nhello"))

theorem skipHeader_padded (padding : Nat) (more : Bytes) :
    skipHeader (utf8 "Via: " ++ (List.replicate padding 0x78 ++ 0x0d :: 0x0a :: more)) =
      .ok more := by
  have name : utf8 "Via: " = utf8 "Via" ++ [0x3a, 0x20] := by decide +kernel
  have names : ∀ byte ∈ utf8 "Via", isNameByte byte = true := by decide +kernel
  have colon : ¬ isNameByte 0x3a = true := by decide +kernel
  have values : ∀ byte ∈ 0x20 :: List.replicate padding (0x78 : UInt8),
      isValueByte byte = true := by
    intro byte member
    rcases List.mem_cons.mp member with rfl | padded
    · rfl
    · rw [List.eq_of_mem_replicate padded]
      rfl
  unfold skipHeader
  rw [name, List.append_assoc, List.dropWhile_append_of_pos names, List.cons_append,
    List.dropWhile_cons_of_neg colon]
  dsimp only [nextByte, bind, Except.bind]
  rw [if_neg (by decide), List.cons_append, List.nil_append, ← List.cons_append,
    List.dropWhile_append_of_pos values]
  rfl

theorem paddedAnswer_head (padding : Nat) :
    ResponseHead.ofBytes (paddedAnswer padding) = .ok ⟨200, utf8 "OK", 26 + padding⟩ := by
  have line : ResponseHead.readStatusLine (utf8 "HTTP/1.1 200 OK\r\n") =
      .ok (200, utf8 "OK", []) := by decide +kernel
  have decided : ¬ Undecided (ResponseHead.readStatusLine (utf8 "HTTP/1.1 200 OK\r\n")) := by
    rw [line]
    exact nofun
  have ends : utf8 "\r\n\r\nhello" = 0x0d :: 0x0a :: 0x0d :: 0x0a :: utf8 "hello" := by
    decide +kernel
  have starts : utf8 "Via: " = 0x56 :: utf8 "ia: " := by decide +kernel
  have header := skipHeader_padded padding (0x0d :: 0x0a :: utf8 "hello")
  have headers : skipHeaders ResponseHead.maxHeaders (utf8 "Via: " ++
      (List.replicate padding 0x78 ++ utf8 "\r\n\r\nhello")) = .ok (utf8 "hello") := by
    rw [ends]
    unfold skipHeaders
    rw [header, starts]
    rfl
  have sizes : (utf8 "HTTP/1.1 200 OK\r\n").length = 17 ∧ (utf8 "Via: ").length = 5 ∧
      (utf8 "\r\n\r\nhello").length = 9 ∧ (utf8 "hello").length = 5 := by decide +kernel
  obtain ⟨lineSize, nameSize, endSize, behindSize⟩ := sizes
  unfold ResponseHead.ofBytes paddedAnswer
  rw [ResponseHead.readStatusLine_append decided, line]
  dsimp only [Except.map, bind, Except.bind, handOn]
  rw [List.nil_append, headers]
  have length : 17 + (5 + (padding + 9)) - 5 = 26 + padding := by omega
  dsimp only [pure, Except.pure]
  simp only [List.length_append, List.length_replicate, lineSize, nameSize, endSize, behindSize,
    length]

/-- A head of more than the limit is let through where the reads leave the limit out. -/
theorem long_head_opens_tunnel :
    ∃ (head : ResponseHead) (delivery : Delivery (utf8 (requestHead ⟨"db", 9042⟩ none))
        (paddedAnswer maxHeadLength) .keepsSilent),
      ResponseHead.ofBytes (paddedAnswer maxHeadLength) = .ok head ∧ head.code = 200 ∧
      maxHeadLength < head.length ∧
      delivery.EndsWith ⟨"db", 9042⟩ none
        (.ok ((paddedAnswer maxHeadLength).drop head.length)) := by
  have read := paddedAnswer_head maxHeadLength
  obtain ⟨delivery, opened⟩ :=
    Delivery.exists_opened ⟨"db", 9042⟩ none .keepsSilent read rfl (by decide)
  exact ⟨_, delivery, read, rfl, by decide, opened⟩

end ProxyDial.Http
