import ProxyDial.Proofs.Http.Prefix
import ProxyDial.Proofs.Http.Transparency
import ProxyDial.Proofs.Net.Ending
import ProxyDial.Proofs.Net.Tunnel

set_option autoImplicit false

/-! Answers of an HTTP proxy that break off. No part of a head is a head, so that the handshake goes
on reading until the answer ends, and then it fails. -/

namespace ProxyDial.Http
open Text

/-- What is shorter than the head of an answer does not decide it. -/
theorem ResponseHead.undecided_of_short {answer part : Bytes} {head : ResponseHead}
    (read : ofBytes answer = .ok head) (start : part <+: answer)
    (short : part.length < head.length) : Undecided (ofBytes part) := by
  by_contra decided
  obtain ⟨more, rfl⟩ := start
  rw [ofBytes_append decided] at read
  have long := length_le read
  omega

section
variable {socket : Socket} {ending : Ending} {options : DialOptions} {world : World}

theorem readAnswer_truncated (destination : Destination) {room : Nat} {answer unread : Bytes}
    (awaits : socket.Awaits ending options unread world)
    (undecided : ∀ part, part <+: answer ++ unread → Undecided (ResponseHead.ofBytes part))
    (short : (answer ++ unread).length < maxHeadLength) (enough : unread.length < room) :
    (readAnswer destination options socket room answer).Ensures world fun result _ =>
      ending.Fails result := by
  induction room generalizing answer unread world with
  | zero => omega
  | succ room ih =>
      unfold readAnswer
      apply awaits.ensures_hear (by decide)
      · intro error kind
        exact ⟨error, rfl, kind⟩
      · intro outcome behind met
        cases met with
        | closed hangsUp all =>
            subst hangsUp
            apply Dial.ensures_bind_of_eq rfl
            exact Dial.ensures_fail ⟨_, rfl, rfl⟩
        | late silent =>
            subst silent
            exact Dial.ensures_bind (Dial.ensures_fail ⟨_, rfl, rfl⟩)
        | @part got rest split notEmpty fits further =>
            subst split
            rw [← List.append_assoc] at undecided short
            have someBytes : got.isEmpty = false := by simpa using notEmpty
            have positive := List.length_pos_iff.mpr notEmpty
            have open' := undecided (answer ++ got) (List.prefix_append _ _)
            have stillShort : (answer ++ got).length < maxHeadLength := by
              rw [List.length_append] at short
              omega
            apply Dial.ensures_bind_of_eq rfl
            dsimp only
            rw [someBytes, verdict_of_undecided open' stillShort]
            apply Dial.ensures_bind_of_eq rfl
            rw [List.length_append] at enough
            exact ih further undecided short (by omega)

theorem openTunnel_truncated (destination : Destination) (authorization : Option String)
    {part : Bytes} (undecided : ∀ start, start <+: part → Undecided (ResponseHead.ofBytes start))
    (short : part.length < maxHeadLength) :
    FailsBehind (openTunnel destination authorization) part ending := by
  intro options started socket world starts awaits
  apply Dial.ensures_bind_of_eq (Dial.started_run_of starts)
  have fails : (handshake destination authorization started socket).Ensures
      (world.looked .starts options) fun result _ => ending.Fails result := by
    apply (awaits.looked .starts options).ensures_say
    · intro error kind
      exact ⟨error, rfl, kind⟩
    · intro behind awaits
      apply Dial.ensures_bind_of_eq rfl
      exact readAnswer_truncated destination awaits undecided short (Nat.lt_succ_of_lt short)
  exact Ending.ensures_closing fails fun _ => rfl

end

/-- Where a tunnel opens, it takes exactly the head of the answer. -/
theorem openTunnel_takes_head {destination : Destination} {authorization : Option String}
    {reply : Bytes}
    (succeeds : Succeeds (openTunnel destination authorization) RawStream.held reply) :
    ∃ held head, ResponseHead.ofBytes (reply ++ held) = .ok head ∧ head.length = reply.length := by
  obtain ⟨options, socket, peer, stream, said, later, world, raw, behind, delivers, exchanged, run,
    heard⟩ := succeeds
  have opens := (ensures_openTunnel_judged delivers destination authorization exchanged).of_run run
  obtain ⟨held, answer, rfl, flows, inScript, judged⟩ := opens raw rfl
  have same : reply ++ held = answer := heard.heard_unique ⟨flows.talks, inScript⟩
  subst same
  obtain ⟨head, read, split⟩ := head_of_verdict judged
  have fits := ResponseHead.length_le read
  have lengths := congrArg List.length split
  rw [List.length_drop] at lengths
  rw [List.length_append] at fits lengths
  exact ⟨held, head, read, by omega⟩

end ProxyDial.Http
