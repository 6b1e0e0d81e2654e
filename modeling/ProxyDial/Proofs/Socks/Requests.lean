import ProxyDial.Proofs.Socks.Encoding
import ProxyDial.Proofs.Socks.Transcript

set_option autoImplicit false

/-! What a client says in a SOCKS handshake, whatever the proxy replies and however the handshake
ends. No user name or password is said to a proxy that has not asked for one, and no destination to
a proxy that has not admitted the client. -/

namespace ProxyDial.Socks
open Text

/-- The replies admit the client: it needs no authentication, or has authenticated. -/
def Admitted (credentials : Option Credentials) (heard : Bytes) : Prop :=
  [5, 0] <+: heard ∨ (credentials.isSome ∧ ∃ revision, [5, 2, revision, 0] <+: heard)

/-- What the greeting is followed by, given what has been heard. -/
structure Conforms (destination : Destination) (credentials : Option Credentials)
    (result : Except Abort Unit) (said heard authentication request : Bytes) : Prop where
  order : said <+: greeting credentials ++ authentication ++ request
  authenticates : authentication ≠ [] → [5, 2] <+: heard ∧ ∃ login, credentials = some login ∧
    readPasswordPacket? authentication = some (utf8 login.username, utf8 login.password)
  requests : request ≠ [] →
    ([5, 0] <+: heard ∨ (authentication ≠ [] ∧ ∃ revision, [5, 2, revision, 0] <+: heard)) ∧
      readRequest? request = some ⟨1, .ofHost destination.host, destination.port⟩
  longUsername : ∀ login, credentials = some login → 255 < (utf8 login.username).length →
    authentication = [] ∧ ([5, 2] <+: heard →
      request = [] ∧ result = .error (.failed (.config .socksUsernameTooLong)))
  longPassword : ∀ login, credentials = some login → (utf8 login.username).length ≤ 255 →
    255 < (utf8 login.password).length →
    authentication = [] ∧ ([5, 2] <+: heard →
      request = [] ∧ result = .error (.failed (.config .socksPasswordTooLong)))
  longHost : IpAddress.ofString? destination.host = none →
    255 < (utf8 destination.host).length →
    request = [] ∧ (Admitted credentials heard →
      result = .error (.failed (.config (.socksHostTooLong destination.host))))

/-- What cannot be encoded is what is too long. -/
private theorem conforms_of_errors {destination : Destination} {credentials : Option Credentials}
    {result : Except Abort Unit} {said heard authentication packet : Bytes}
    (order : said <+: greeting credentials ++ authentication ++ packet)
    (authenticates : authentication ≠ [] → [5, 2] <+: heard ∧
      ∃ login, credentials = some login ∧ passwordPacket login = .ok authentication)
    (requests : packet ≠ [] →
      ([5, 0] <+: heard ∨ (authentication ≠ [] ∧ ∃ revision, [5, 2, revision, 0] <+: heard)) ∧
        request destination = .ok packet)
    (unencoded : ∀ login error, credentials = some login → passwordPacket login = .error error →
      [5, 2] <+: heard → packet = [] ∧ result = .error (.failed error))
    (unrequested : ∀ error, request destination = .error error → Admitted credentials heard →
      result = .error (.failed error)) :
    Conforms destination credentials result said heard authentication packet := by
  have unsaid : ∀ login error, credentials = some login → passwordPacket login = .error error →
      authentication = [] := by
    intro login error given failed
    apply Classical.byContradiction
    intro notEmpty
    obtain ⟨-, other, same, encoded⟩ := authenticates notEmpty
    rw [given] at same
    cases same
    rw [encoded] at failed
    cases failed
  refine ⟨order, ?_, ?_, ?_, ?_, ?_⟩
  · intro notEmpty
    obtain ⟨chosen, login, given, encoded⟩ := authenticates notEmpty
    exact ⟨chosen, login, given, readPasswordPacket?_passwordPacket encoded⟩
  · intro notEmpty
    obtain ⟨admitted, encoded⟩ := requests notEmpty
    exact ⟨admitted, readRequest?_request encoded⟩
  · intro login given long
    have failed := passwordPacket_error_iff.mpr (Or.inl ⟨long, rfl⟩)
    exact ⟨unsaid login _ given failed, unencoded login _ given failed⟩
  · intro login given short long
    have failed := passwordPacket_error_iff.mpr (Or.inr ⟨short, long, rfl⟩)
    exact ⟨unsaid login _ given failed, unencoded login _ given failed⟩
  · intro noLiteral long
    have failed := request_error_iff.mpr ⟨noLiteral, long, rfl⟩
    refine ⟨?_, unrequested _ failed⟩
    apply Classical.byContradiction
    intro notEmpty
    rw [(requests notEmpty).2] at failed
    cases failed

theorem passwordPacket_ne_nil (login : Credentials) : passwordPacket login ≠ .ok [] := by
  intro encoded
  have read := readPasswordPacket?_passwordPacket encoded
  cases read

/-- How a negotiation ends. -/
inductive NegotiationEnd (credentials : Option Credentials) :
    Except Abort Unit → (said heard authentication : Bytes) → Prop
  | withoutAuthentication : NegotiationEnd credentials (.ok ()) (greeting credentials) [5, 0] []
  | authenticated {login : Credentials} {packet : Bytes} (revision : UInt8)
      (given : credentials = some login) (encoded : passwordPacket login = .ok packet) :
      NegotiationEnd credentials (.ok ()) (greeting credentials ++ packet) [5, 2, revision, 0]
        packet
  | failed {abort : Abort} {said heard authentication : Bytes}
      (order : said <+: greeting credentials ++ authentication)
      (asked : authentication ≠ [] → [5, 2] <+: heard ∧
        ∃ login, credentials = some login ∧ passwordPacket login = .ok authentication)
      (outside : ¬ Admitted credentials heard)
      (unencoded : ∀ login error, credentials = some login → passwordPacket login = .error error →
        [5, 2] <+: heard → abort = .failed error) :
      NegotiationEnd credentials (.error abort) said heard authentication

private theorem not_admitted_of_short {credentials : Option Credentials} {part : Bytes}
    (short : part.length < 2) : ¬ Admitted credentials part := by
  intro admitted
  rcases admitted with none | ⟨-, revision, password⟩
  · have length := none.length_le
    simp only [List.length_cons, List.length_nil] at length
    omega
  · have length := password.length_le
    simp only [List.length_cons, List.length_nil] at length
    omega

/-- A failure before any credentials are asked for. -/
private theorem negotiationEnd_of_unasked {credentials : Option Credentials} {abort : Abort}
    {said heard : Bytes} (order : said <+: greeting credentials)
    (outside : ¬ Admitted credentials heard)
    (unasked : credentials.isSome → ¬ [5, 2] <+: heard) :
    NegotiationEnd credentials (.error abort) said heard [] := by
  refine .failed ?_ (fun impossible => absurd rfl impossible) outside ?_
  · rw [List.append_nil]
    exact order
  · intro login error given _ asked
    exact absurd asked (unasked (by rw [given]; rfl))

/-- Method 2 has been chosen, but the sub-negotiation has not come to its end. -/
private theorem not_admitted_of_status {credentials : Option Credentials} {replies : Bytes}
    (unfinished : ∀ revision, ¬ [revision, 0] <+: replies) :
    ¬ Admitted credentials (5 :: 2 :: replies) := by
  intro admitted
  rcases admitted with none | ⟨-, revision, password⟩
  · simp [List.cons_prefix_cons] at none
  · simp only [List.cons_prefix_cons, true_and] at password
    exact unfinished revision (by simpa [List.cons_prefix_cons] using password)

theorem Authenticated.negotiationEnd {login : Credentials} {result : Except Abort Unit}
    {packets replies : Bytes} (authenticated : Authenticated login result packets replies) :
    ∃ authentication, NegotiationEnd (some login) result (greeting (some login) ++ packets)
      (5 :: 2 :: replies) authentication := by
  have encodes : ∀ {packet : Bytes} {abort : Abort}, passwordPacket login = .ok packet →
      ∀ login' error, some login = some login' → passwordPacket login' = .error error →
        [5, 2] <+: 5 :: 2 :: replies → abort = .failed error := by
    intro packet abort encoded login' error same failed
    cases same
    rw [encoded] at failed
    cases failed
  have unread : ∀ {part : Bytes} (revision : UInt8), part.length < 2 →
      ¬ [revision, 0] <+: part := by
    intro part revision short here
    have length := here.length_le
    simp only [List.length_cons, List.length_nil] at length
    omega
  cases authenticated with
  | @tooLong error long =>
      refine ⟨[], .failed (List.prefix_refl _) (fun impossible => absurd rfl impossible)
        (not_admitted_of_status fun revision => unread revision (by decide)) ?_⟩
      intro login' error' same failed _
      cases same
      rw [long] at failed
      cases failed
      rfl
  | @unsaid packet _ _ encoded inPart =>
      exact ⟨packet, .failed ((List.prefix_append_right_inj _).mpr inPart)
        (fun _ => ⟨List.prefix_append [5, 2] [], login, rfl, encoded⟩)
        (not_admitted_of_status fun revision => unread revision (by decide)) (encodes encoded)⟩
  | cut encoded short =>
      exact ⟨packets, .failed (List.prefix_refl _)
        (fun _ => ⟨List.prefix_append [5, 2] replies, login, rfl, encoded⟩)
        (not_admitted_of_status fun revision => unread revision short) (encodes encoded)⟩
  | @rejected _ revision status encoded refused =>
      refine ⟨packets, .failed (List.prefix_refl _)
        (fun _ => ⟨List.prefix_append [5, 2] _, login, rfl, encoded⟩)
        (not_admitted_of_status fun other => ?_) (encodes encoded)⟩
      simp [List.cons_prefix_cons, Ne.symm refused]
  | @accepted _ revision encoded =>
      exact ⟨packets, .authenticated revision rfl encoded⟩

theorem Negotiated.negotiationEnd {credentials : Option Credentials} {result : Except Abort Unit}
    {packets replies : Bytes} (negotiated : Negotiated credentials result packets replies) :
    ∃ authentication, NegotiationEnd credentials result packets replies authentication := by
  cases negotiated with
  | unsaid inPart =>
      refine ⟨[], negotiationEnd_of_unasked inPart
        (not_admitted_of_short (by decide)) ?_⟩
      intro _ asked
      cases List.prefix_nil.mp asked
  | cut short =>
      refine ⟨[], negotiationEnd_of_unasked (List.prefix_refl _)
        (not_admitted_of_short short) ?_⟩
      intro _ asked
      have length := asked.length_le
      simp only [List.length_cons, List.length_nil] at length
      omega
  | @otherVersion found method other =>
      have notFive : (5 : UInt8) ≠ found := fun same => other same.symm
      refine ⟨[], negotiationEnd_of_unasked (List.prefix_refl _) ?_ ?_⟩
      · simp [Admitted, List.cons_prefix_cons, notFive]
      · simp [List.cons_prefix_cons, notFive]
  | notOffered none =>
      subst none
      refine ⟨[], negotiationEnd_of_unasked (List.prefix_refl _) ?_ ?_⟩
      · simp [Admitted, List.cons_prefix_cons, version, Socks.byPassword]
      · intro impossible
        cases impossible
  | noneAcceptable =>
      refine ⟨[], negotiationEnd_of_unasked (List.prefix_refl _) ?_ ?_⟩
      · simp [Admitted, List.cons_prefix_cons, version, Socks.noneAcceptable]
      · simp [List.cons_prefix_cons, version, Socks.noneAcceptable]
  | @unknownMethod method notNone notPassword =>
      have notZero : (0 : UInt8) ≠ method := fun same => notNone same.symm
      have notTwo : (2 : UInt8) ≠ method := fun same => notPassword same.symm
      refine ⟨[], negotiationEnd_of_unasked (List.prefix_refl _) ?_ ?_⟩
      · simp [Admitted, List.cons_prefix_cons, notZero, notTwo]
      · simp [List.cons_prefix_cons, notTwo]
  | withoutAuthentication => exact ⟨[], .withoutAuthentication⟩
  | byPassword given authenticated =>
      subst given
      exact authenticated.negotiationEnd

/-- Once the client is admitted, all that can still be said is the request. -/
theorem NegotiationEnd.conforms {destination : Destination} {credentials : Option Credentials}
    {said heard authentication packet begun reply allSaid allHeard : Bytes}
    {result : Except Abort Unit}
    (ended : NegotiationEnd credentials (.ok ()) said heard authentication)
    (saying : allSaid = said ++ begun) (inPart : begun <+: packet)
    (hearing : allHeard = heard ++ reply)
    (encoded : packet ≠ [] → request destination = .ok packet)
    (tooLong : ∀ error, request destination = .error error → result = .error (.failed error)) :
    Conforms destination credentials result allSaid allHeard authentication packet := by
  subst saying
  subst hearing
  cases ended with
  | withoutAuthentication =>
      apply conforms_of_errors
      case order =>
        rw [List.append_nil]
        exact (List.prefix_append_right_inj _).mpr inPart
      case authenticates =>
        intro impossible
        exact absurd rfl impossible
      case requests =>
        intro notEmpty
        exact ⟨Or.inl (List.prefix_append _ _), encoded notEmpty⟩
      case unencoded =>
        intro login error _ _ asked
        simp [List.cons_prefix_cons] at asked
      case unrequested =>
        intro error failed _
        exact tooLong error failed
  | @authenticated login authentication revision given encodedLogin =>
      apply conforms_of_errors
      case order => exact (List.prefix_append_right_inj _).mpr inPart
      case authenticates =>
        intro _
        exact ⟨List.prefix_append [5, 2] _, login, given, encodedLogin⟩
      case requests =>
        intro notEmpty
        refine ⟨Or.inr ⟨?_, revision, List.prefix_append _ _⟩, encoded notEmpty⟩
        intro empty
        rw [empty] at encodedLogin
        exact passwordPacket_ne_nil login encodedLogin
      case unencoded =>
        intro login' error given' failed
        rw [given] at given'
        cases given'
        rw [encodedLogin] at failed
        cases failed
      case unrequested =>
        intro error failed _
        exact tooLong error failed

theorem Handshaken.conforms {destination : Destination} {credentials : Option Credentials}
    {result : Except Abort Unit} {said heard : Bytes}
    (handshaken : Handshaken destination credentials result said heard) :
    ∃ authentication packet,
      Conforms destination credentials result said heard authentication packet := by
  cases handshaken with
  | stopped negotiated =>
      obtain ⟨authentication, ended⟩ := negotiated.negotiationEnd
      refine ⟨authentication, [], ?_⟩
      cases ended with
      | failed order asked outside unencoded =>
          apply conforms_of_errors
          case order =>
            rw [List.append_nil]
            exact order
          case authenticates => exact asked
          case requests =>
            intro impossible
            exact absurd rfl impossible
          case unencoded =>
            intro login error given failed chosen
            exact ⟨rfl, by rw [unencoded login error given failed chosen]⟩
          case unrequested =>
            intro error _ admitted
            exact absurd admitted outside
  | @tooLong packets replies error negotiated failed =>
      obtain ⟨authentication, ended⟩ := negotiated.negotiationEnd
      refine ⟨authentication, [], ended.conforms (List.append_nil said).symm List.nil_prefix
        (List.append_nil heard).symm (fun impossible => absurd rfl impossible) ?_⟩
      intro other failed'
      rw [failed] at failed'
      cases failed'
      rfl
  | @unasked packets replies packet begun error negotiated encoded inPart =>
      obtain ⟨authentication, ended⟩ := negotiated.negotiationEnd
      refine ⟨authentication, packet, ended.conforms rfl inPart (List.append_nil heard).symm
        (fun _ => encoded) ?_⟩
      intro other failed
      rw [encoded] at failed
      cases failed
  | @answered packets replies packet reply result negotiated encoded answer =>
      obtain ⟨authentication, ended⟩ := negotiated.negotiationEnd
      refine ⟨authentication, packet, ended.conforms rfl (List.prefix_refl _) rfl
        (fun _ => encoded) ?_⟩
      intro error failed
      rw [encoded] at failed
      cases failed

/-- Whatever happens, the client says the greeting, the packet with the credentials that it is asked
for, and the request, in this order, and it may stop at any point. -/
theorem handshake_conforms {socket : Socket} {peer : Peer} {script : Bytes → Bytes} {world : World}
    (delivers : peer.Delivers script) (talks : socket.Talks peer [] 0 world)
    (destination : Destination) (credentials : Option Credentials) (options : DialOptions) :
    (handshake destination credentials options socket).Ensures world fun result behind =>
      ∃ said heard authentication packet,
        socket.Talks peer said heard.length behind ∧ heard <+: script said ∧
        readGreeting? (greeting credentials) = some (if credentials.isSome then [0, 2] else [0]) ∧
        Conforms destination credentials result said heard authentication packet := by
  cases starts : options.started? world.now with
  | some started =>
      refine (handshake_transcript delivers destination credentials starts
        ⟨talks, List.nil_prefix⟩).mono ?_
      intro result behind found
      obtain ⟨said, heard, handshaken, exchanged⟩ := found
      obtain ⟨authentication, packet, conforms⟩ := handshaken.conforms
      exact ⟨said, heard, authentication, packet, exchanged.talks, exchanged.inScript,
        readGreeting?_greeting credentials, conforms⟩
  | none =>
      unfold handshake
      apply ensures_started
      case starts =>
        intro started impossible
        rw [starts] at impossible
        cases impossible
      case overflow =>
        intro _
        refine ⟨[], [], [], [], talks, List.nil_prefix, readGreeting?_greeting credentials, ?_⟩
        apply conforms_of_errors
        case order => exact List.nil_prefix
        case authenticates =>
          intro impossible
          exact absurd rfl impossible
        case requests =>
          intro impossible
          exact absurd rfl impossible
        case unencoded =>
          intro login error _ _ impossible
          cases List.prefix_nil.mp impossible
        case unrequested =>
          intro error _ admitted
          exact absurd admitted (not_admitted_of_short (by decide))

/-- A proxy that asks for a password, accepts it, and hangs up. -/
theorem handshake_conforms_to_hang_up :
    (handshake ⟨"db", 9042⟩ (some ⟨"user", "secret"⟩) .default ⟨0⟩).Ensures
      (.linked (.ofStream [5, 2, 1, 0] (.closed ⟨0⟩))) fun result behind =>
        ∃ said heard authentication packet,
          Socket.Talks ⟨0⟩ (.ofStream [5, 2, 1, 0] (.closed ⟨0⟩)) said heard.length behind ∧
          heard <+: [5, 2, 1, 0] ∧
          readGreeting? (greeting (some ⟨"user", "secret"⟩)) = some [0, 2] ∧
          Conforms ⟨"db", 9042⟩ (some ⟨"user", "secret"⟩) result said heard authentication packet :=
  handshake_conforms (Peer.ofStream_plays [5, 2, 1, 0]).delivers (World.linked_talks _) _ _ _

end ProxyDial.Socks
