import ProxyDial.Proofs.Dns.Lookup

set_option autoImplicit false

/-! The replies of a nameserver as they come over a tunnel: messages, each behind its length. A
stream starts with them in one way at most. -/

namespace ProxyDial.ProxiedResolver
open Text Dns

/-- Two bytes in front of a message that tell its length make a frame. -/
theorem frame_of_length {high low : UInt8} {message : Bytes}
    (length : message.length = high.toNat * 256 + low.toNat) :
    frame message = high :: low :: message ∧ message.length < 65536 := by
  have below := high.toNat_lt
  have lowBelow := low.toNat_lt
  have upper : message.length / 256 = high.toNat := by omega
  constructor
  · have lower : UInt8.ofNat message.length = low := by
      apply UInt8.toNat_inj.mp
      rw [UInt8.toNat_ofNat']
      omega
    rw [frame, upper, lower, UInt8.ofNat_toNat]
  · omega

/-- So many messages, each short enough for its length to stand in front of it. -/
structure Framed (count : Nat) (messages : List Bytes) : Prop where
  length : messages.length = count
  small : ∀ message ∈ messages, message.length < 65536

theorem Framed.nil : Framed 0 [] where
  length := rfl
  small := by simp

theorem Framed.cons {count : Nat} {message : Bytes} {messages : List Bytes}
    (small : message.length < 65536) (others : Framed count messages) :
    Framed (count + 1) (message :: messages) where
  length := congrArg (· + 1) others.length
  small := by
    intro other member
    rcases List.mem_cons.mp member with rfl | later
    · exact small
    · exact others.small other later

theorem Framed.pair {first second : Bytes} (small : first.length < 65536)
    (otherSmall : second.length < 65536) : Framed 2 [first, second] where
  length := rfl
  small := by simp [small, otherSmall]

theorem frames_pair (first second : Bytes) :
    [first, second].flatMap frame = frame first ++ frame second := by
  rw [List.flatMap_cons, List.flatMap_singleton]

/-- Where a frame ends is told by its start. -/
theorem frame_append_inj {message other rest more : Bytes} (small : message.length < 65536)
    (otherSmall : other.length < 65536) (same : frame message ++ rest = frame other ++ more) :
    message = other ∧ rest = more := by
  simp only [frame, List.cons_append, List.cons.injEq] at same
  obtain ⟨upper, lower, same⟩ := same
  have upper := congrArg UInt8.toNat upper
  have lower := congrArg UInt8.toNat lower
  simp only [UInt8.toNat_ofNat'] at upper lower
  exact List.append_inj same (by omega)

/-- A stream starts with one sequence of so many messages at most. -/
theorem Framed.unique {count : Nat} {messages others : List Bytes} {stream : Bytes}
    (framed : Framed count messages) (otherFramed : Framed count others)
    (start : messages.flatMap frame <+: stream) (otherStart : others.flatMap frame <+: stream) :
    messages = others := by
  induction messages generalizing count others stream with
  | nil =>
      have none := otherFramed.length.trans framed.length.symm
      exact (List.eq_nil_of_length_eq_zero none).symm
  | cons message messages ih =>
      cases others with
      | nil =>
          have none := otherFramed.length.trans framed.length.symm
          cases none
      | cons other others =>
          rw [List.flatMap_cons] at start otherStart
          obtain ⟨rest, whole⟩ := start
          obtain ⟨more, otherWhole⟩ := otherStart
          rw [← otherWhole, List.append_assoc, List.append_assoc] at whole
          obtain ⟨rfl, behind⟩ := frame_append_inj (framed.small _ List.mem_cons_self)
            (otherFramed.small _ List.mem_cons_self) whole
          have counts := otherFramed.length.trans framed.length.symm
          have tail : Framed messages.length messages :=
            ⟨rfl, fun other member => framed.small other (List.mem_cons_of_mem _ member)⟩
          have otherTail : Framed messages.length others :=
            ⟨Nat.succ.inj counts,
              fun other member => otherFramed.small other (List.mem_cons_of_mem _ member)⟩
          rw [ih tail otherTail ⟨rest, behind⟩ ⟨more, rfl⟩]

/-- An exchange that lets the lookup go on has read one message. -/
theorem Exchange.framed {talk : Talk} {question : Question} {id : UInt16} {behind : World}
    {outcome : Outcome} {packets replies : Bytes}
    (exchange : Exchange talk question id behind outcome packets replies)
    (goesOn : outcome.goesOn = true) :
    ∃ message : Bytes, message.length < 65536 ∧ replies = frame message := by
  cases exchange with
  | unsaid => cases goesOn
  | cutLength => cases goesOn
  | cutReply => cases goesOn
  | answered whole told =>
      obtain ⟨framed, small⟩ := frame_of_length whole
      exact ⟨_, small, framed.symm⟩

/-- Where all exchanges let the lookup go on, they have read one message for each family. -/
theorem Exchanges.framed {talk : Talk} {name : Name} {behind : World} {types : List RecordType}
    {outcomes : List Outcome} {packets replies : Bytes}
    (exchanges : Exchanges talk name behind types outcomes packets replies)
    (goesOn : ∀ outcome ∈ outcomes, outcome.goesOn = true) :
    ∃ messages, Framed types.length messages ∧ replies = messages.flatMap frame := by
  induction exchanges with
  | done => exact ⟨[], .nil, rfl⟩
  | ended exchange ends =>
      have impossible := goesOn _ List.mem_cons_self
      rw [ends] at impossible
      cases impossible
  | next exchange goes others ih =>
      obtain ⟨message, small, rfl⟩ := exchange.framed goes
      obtain ⟨messages, framed, rfl⟩ :=
        ih fun outcome member => goesOn outcome (List.mem_cons_of_mem _ member)
      exact ⟨message :: messages, framed.cons small, rfl⟩

end ProxyDial.ProxiedResolver
