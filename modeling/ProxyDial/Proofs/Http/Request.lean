import ProxyDial.Dial.Proxied
import ProxyDial.Proofs.Destination.Reread
import ProxyDial.Proofs.Http.HeadEnd
import ProxyDial.Proofs.Net.Newest
import ProxyDial.Proofs.Text.Visible

set_option autoImplicit false

/-! What an HTTP proxy is sent. The destination is written into the request as it has been read, so
that nothing but the grammar of authorities stands between a configured address and the lines of the
request. The credentials stand there as base64. Whatever the two are, the proxy gets the lines of
one request, or a beginning of them where it does not take all. -/

namespace ProxyDial
open Text

/-- The base64 of the name and the password. -/
def Credentials.token (credentials : Credentials) : String :=
  String.ofList (Base64.encode (utf8 (credentials.username ++ ":" ++ credentials.password)))

namespace Http

/-- The lines, each with its end. -/
def written (lines : List String) : Bytes :=
  lines.flatMap fun line => utf8 line ++ [carriageReturn, lineFeed]

/-- A line end in a password does not end the line that the token stands in. -/
example : utf8 (requestHead ⟨"db", 9042⟩ (some (Credentials.basic ⟨"u", "p\r\nX: y"⟩))) =
    utf8 ("CONNECT db:9042 HTTP/1.1\r\nHost: db:9042\r\n" ++
      "Proxy-Authorization: Basic dTpwDQpYOiB5\r\n\r\n") := by
  decide +kernel

/-- A line without a control character. -/
def Unbroken (line : String) : Prop := ∀ byte ∈ utf8 line, 0x20 ≤ byte.toNat ∧ byte.toNat ≤ 0x7e

theorem Unbroken.append {line more : String} (one : Unbroken line) (two : Unbroken more) :
    Unbroken (line ++ more) := by
  intro byte member
  rw [utf8_append, List.mem_append] at member
  rcases member with early | late
  · exact one byte early
  · exact two byte late

/-- A line without control characters that has any starts with neither mark of a line end. -/
theorem Unbroken.exists_first {line : String} (unbroken : Unbroken line) (notEmpty : utf8 line ≠ [])
    (lines : List String) : ∃ byte bytes, written (line :: lines) = byte :: bytes ∧
      byte ≠ lineFeed ∧ byte ≠ carriageReturn := by
  obtain ⟨byte, bytes, same⟩ := List.exists_cons_of_ne_nil notEmpty
  have printable : 0x20 ≤ byte.toNat := (unbroken byte (same ▸ List.mem_cons_self)).1
  refine ⟨byte, bytes ++ [carriageReturn, lineFeed] ++ written lines, by simp [written, same], ?_⟩
  constructor
  · rintro rfl
    exact absurd printable (by decide)
  · rintro rfl
    exact absurd printable (by decide)

/-- A head that has not been sent whole, since there was no time for it or the peer has taken no
more. Nothing has been heard then. -/
structure CutShort (head : Bytes) (link : Link) : Prop where
  inPart : link.sent <+: head
  notWhole : link.sent ≠ head
  unheard : link.received = 0
  cause : link.sent = [] ∨
    ∃ limit fault, ((link.peer.takes link.sent 0).meets limit).1 = .error fault

/-- Of a connection on which a tunnel has been asked for: it carries the request and nothing else,
or a part of the request where the dial does not succeed. -/
structure Asked (head : Bytes) (returned : Bool) (link : Link) : Prop where
  plain : link.tls = none
  sent : link.sent = head ∨ CutShort head link ∧ returned = false

/-- To close a connection, or to bound it otherwise, says nothing over it. -/
theorem Asked.of_quiet {head : Bytes} {returned : Bool} {link other : Link}
    (asked : Asked head returned link) (tls : other.tls = link.tls) (peer : other.peer = link.peer)
    (sent : other.sent = link.sent) (received : other.received = link.received) :
    Asked head returned other := by
  obtain ⟨plain, whole | ⟨⟨inPart, notWhole, unheard, cause⟩, failed⟩⟩ := asked
  · exact ⟨tls.trans plain, .inl (sent.trans whole)⟩
  · rw [← sent] at inPart notWhole cause
    rw [← peer] at cause
    exact ⟨tls.trans plain, .inr ⟨⟨inPart, notWhole, received.trans unheard, cause⟩, failed⟩⟩

theorem requestHead_ne_nil (destination : Destination) (authorization : Option String) :
    utf8 (requestHead destination authorization) ≠ [] := by
  have first : utf8 "CONNECT " ≠ [] := by decide +kernel
  simp [requestHead, first]

/-- Nothing has been said over a new connection. -/
theorem cutShort_of_fresh {link : Link} (fresh : link.Fresh) (destination : Destination)
    (authorization : Option String) :
    CutShort (utf8 (requestHead destination authorization)) link where
  inPart := by
    rw [fresh.sent]
    exact List.nil_prefix
  notWhole := by
    rw [fresh.sent]
    exact (requestHead_ne_nil destination authorization).symm
  unheard := fresh.received
  cause := .inl fresh.sent

/-- What a connection shows of a request: whether it is open, protected, and what has been sent. -/
private def shown (link : Link) : Bool × Option (TlsServer × Bytes × Nat) × Bytes :=
  (link.isOpen, link.tls, link.sent)

private theorem shown_hides : Link.HidesHearing shown :=
  ⟨fun _ _ => rfl, fun _ _ => rfl, fun _ _ => rfl⟩

private theorem shown_eq {link other : Link} (same : shown link = shown other) :
    link.isOpen = other.isOpen ∧ link.tls = other.tls ∧ link.sent = other.sent := by
  simpa [shown] using same

theorem readAnswer_keeps {γ : Type} {view : Link → γ} (hides : Link.HidesHearing view)
    (destination : Destination) (options : DialOptions) (socket : Socket) (room : Nat)
    (answer : Bytes) : (readAnswer destination options socket room answer).Keeps socket view := by
  induction room generalizing answer with
  | zero => exact Dial.keeps_fail
  | succ room ih =>
      apply Dial.keeps_bind (.of_still (Dial.still_budget options))
      intro limit
      apply Dial.keeps_bind (socket.update_keeps _ fun link => hides.readLimit link _)
      intro _
      apply Dial.keeps_bind (socket.read_keeps hides chunkLength)
      intro result
      apply Dial.keeps_bind (.of_still (Dial.still_orFail _ result))
      intro chunk
      dsimp only
      split
      · exact Dial.keeps_fail
      · apply Dial.keeps_bind (.of_still (Dial.still_ofExcept _))
        intro meaning
        cases meaning with
        | some behind => exact Dial.keeps_pure
        | none => exact ih _

section
variable {socket : Socket} {older : List Link} {link : Link} {world : World}

theorem handshake_asks (destination : Destination) (authorization : Option String)
    (options : DialOptions) (newest : socket.Newest older link world) (fresh : link.Fresh) :
    (handshake destination authorization options socket).Ensures world fun result behind =>
      ∃ after, socket.Newest older after behind ∧ after.isOpen = true ∧
        Asked (utf8 (requestHead destination authorization)) result.isOk after := by
  apply Socket.ensures_budget
  · intro error _
    have unsaid := cutShort_of_fresh fresh destination authorization
    exact ⟨link, newest.looked .draws options, fresh.isOpen, fresh.tls, .inr ⟨unsaid, rfl⟩⟩
  · intro limit _
    apply (newest.looked .draws options).ensures_update
    intro bounded newestBounded
    apply newestBounded.ensures_write fresh.isOpen
    · intro fault part behind breaks newestBroken
      have cut : CutShort (utf8 (requestHead destination authorization))
          { link with writeLimit := some limit, sent := link.sent ++ part } := by
        refine ⟨?_, ?_, fresh.received, .inr ⟨some limit, fault, ?_⟩⟩
        · rw [fresh.sent]
          exact breaks.inPart
        · rw [fresh.sent]
          exact breaks.notWhole
        · have meets := breaks.meets
          dsimp only at meets
          rwa [fresh.received] at meets
      exact Dial.ensures_fail ⟨_, newestBroken, fresh.isOpen, fresh.tls, .inr ⟨cut, rfl⟩⟩
    · intro said newestSaid
      have keeps := readAnswer_keeps shown_hides destination options socket (maxHeadLength + 1) []
      refine (keeps said).mono ?_
      intro result behind kept
      obtain ⟨after, stays, same⟩ := newestSaid.kept kept
      obtain ⟨sameOpen, sameTls, sameSent⟩ := shown_eq same
      have head : after.sent = utf8 (requestHead destination authorization) := by
        rw [sameSent]
        simp [fresh.sent]
      exact ⟨after, stays, sameOpen.trans fresh.isOpen, sameTls.trans fresh.tls, .inl head⟩

theorem openTunnel_asks (destination : Destination) (authorization : Option String)
    (options : DialOptions) (newest : socket.Newest older link world) (fresh : link.Fresh) :
    (openTunnel destination authorization options socket).Ensures world fun result behind =>
      ∃ after, socket.Newest older after behind ∧ after.LeftBy result ∧
        Asked (utf8 (requestHead destination authorization)) result.isOk after ∧
        ∀ raw, result = .ok raw → raw.socket = socket := by
  apply ensures_started
  · intro _
    have unsaid := cutShort_of_fresh fresh destination authorization
    exact ⟨link, newest.looked .starts options, trivial, ⟨fresh.tls, .inr ⟨unsaid, rfl⟩⟩, nofun⟩
  · intro started _
    have asks := handshake_asks destination authorization started (newest.looked .starts options)
      fresh
    apply Socket.Newest.ensures_closing (fun _ => rfl) asks
    · intro after behind ⟨_, asked⟩ stays
      exact ⟨after, stays, trivial, asked, nofun⟩
    · intro error after behind ⟨isOpen, asked⟩ closed
      exact ⟨_, closed, rfl, asked.of_quiet rfl rfl rfl rfl, nofun⟩
    · intro held after behind ⟨isOpen, asked⟩ stays
      apply stays.ensures_update
      intro middle newestMiddle
      apply newestMiddle.ensures_update
      intro behind cleared
      exact ⟨_, cleared, ⟨isOpen, rfl, rfl⟩, asked.of_quiet rfl rfl rfl rfl, fun raw same => by
        cases same
        rfl⟩

end

theorem dial_asks (proxy : Proxy) (destination : Destination) (options : DialOptions) :
    (dial proxy destination options).MakesOne
      (Asked (utf8 (requestHead destination proxy.authorization))) := by
  apply Dial.makesOne_of_connect
  intro started socket older link world newest fresh
  apply Dial.ensures_bind
  refine (openTunnel_asks destination proxy.authorization started newest fresh).mono ?_
  rintro result behind ⟨after, stays, left, asked, same⟩
  cases result with
  | error abort => exact ⟨after, stays, left, asked, nofun⟩
  | ok raw =>
      refine Dial.ensures_pure ⟨after, stays, left, asked, ?_⟩
      rintro connection ⟨⟩
      exact same raw rfl

end Http

end ProxyDial
