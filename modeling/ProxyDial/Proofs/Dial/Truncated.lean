import ProxyDial.Proofs.Dns.Accepted
import ProxyDial.Proofs.Dns.Truncated
import ProxyDial.Proofs.Http.Truncated
import ProxyDial.Proofs.Socks.Replies
import ProxyDial.Proofs.Socks.Truncated

set_option autoImplicit false

/-! Handshakes and lookups whose replies break off. -/

namespace ProxyDial
open Text

/-- Whatever bytes a handshake or a lookup needs to succeed, a proper part of them makes it fail, in
whatever pieces they come: with a protocol error where they are followed by the end of the stream,
and with a timeout where they are followed by silence. -/
theorem truncated_replies_fail (ending : Ending) :
    (∀ destination authorization reply part,
      Succeeds (Http.openTunnel destination authorization) RawStream.held reply →
        reply.length ≤ Http.maxHeadLength → part <+: reply → part ≠ reply →
          FailsBehind (Http.openTunnel destination authorization) part ending) ∧
    (∀ destination credentials replies part,
      Succeeds (Socks.openTunnel destination credentials) RawStream.held replies →
        part <+: replies → part ≠ replies →
          FailsBehind (Socks.openTunnel destination credentials) part ending) ∧
    ∀ (resolver : ProxiedResolver) (host : String) (port : UInt16)
      (run : resolver.Success host port), ∃ first second, run.Reads first second ∧
        ∀ part, part <+: ProxiedResolver.frame first ++ ProxiedResolver.frame second →
          part ≠ ProxiedResolver.frame first ++ ProxiedResolver.frame second →
            resolver.LookupFailsBehind host port run.opened part ending := by
  refine ⟨?_, ?_, ?_⟩
  · intro destination authorization reply part succeeds bound start proper
    obtain ⟨held, head, read, length⟩ := Http.openTunnel_takes_head succeeds
    have shorter : part.length < reply.length := by
      apply Nat.lt_of_le_of_ne start.length_le
      intro same
      exact proper (start.eq_of_length same)
    apply Http.openTunnel_truncated
    · intro begun within
      apply Http.ResponseHead.undecided_of_short read
      · exact (within.trans start).trans (List.prefix_append reply held)
      · have small := within.length_le
        omega
    · omega
  · intro destination credentials replies part succeeds start proper
    exact Socks.openTunnel_truncated succeeds start proper ending
  · intro resolver host port run
    obtain ⟨first, second, reads⟩ := run.reads
    refine ⟨first, second, reads, ?_⟩
    intro part start proper
    exact run.lookup_truncated reads start proper ending

/-- The head of an answer that grants the tunnel. -/
def grantedHead : Bytes := utf8 "HTTP/1.1 200 OK\r\n\r\n"

theorem grantedHead_succeeds :
    Succeeds (Http.openTunnel ⟨"db", 9042⟩ none) RawStream.held grantedHead := by
  let peer : Peer := .ofStream grantedHead (.closed ⟨0⟩)
  have returns : (Http.openTunnel ⟨"db", 9042⟩ none .default ⟨0⟩ (.linked peer)).1.toOption =
      some (.tunneled ⟨[], ⟨0⟩⟩) := by
    decide +kernel
  have counts : ((Http.openTunnel ⟨"db", 9042⟩ none .default ⟨0⟩ (.linked peer)).2.links[0]?.map
      (·.received)) = some grantedHead.length := by
    decide +kernel
  have run := Dial.run_of_toOption returns
  have delivers := (Peer.ofStream_plays grantedHead).delivers
  have exchanged : Socket.Exchanged ⟨0⟩ peer (fun _ => grantedHead) [] [] (.linked peer) :=
    ⟨World.linked_talks peer, List.nil_prefix⟩
  obtain ⟨held, heard, -, flows, -⟩ :=
    (Http.ensures_openTunnel_judged delivers ⟨"db", 9042⟩ none exchanged).of_run run _ rfl
  obtain ⟨link, here, isOpen, samePeer, -⟩ := flows
  rw [here] at counts
  have nothing : grantedHead ++ (RawStream.tunneled ⟨[], ⟨0⟩⟩).held = grantedHead :=
    List.append_nil _
  refine ⟨.default, ⟨0⟩, peer, grantedHead, [], link.sent, .linked peer, _, _, delivers, exchanged,
    run, ?_⟩
  rw [nothing]
  exact ⟨⟨link, here, isOpen, samePeer, rfl, Option.some.inj counts⟩, List.prefix_refl _⟩

/-- The choice of no authentication, and a reply that grants the tunnel from a host with a name. -/
def grantedReplies : Bytes := [5, 0] ++ [] ++ ([5, 0, 0, 3, 2] ++ [100, 98, 35, 82])

theorem grantedReplies_succeed :
    Succeeds (Socks.openTunnel ⟨"db", 9042⟩ none) RawStream.held grantedReplies := by
  have accepted : Socks.Accepted (none : Option Credentials).isSome grantedReplies :=
    .replies .withoutAuthentication (.name 0 2 [100, 98, 35, 82] rfl)
  have encoded : Socks.request ⟨"db", 9042⟩ = .ok [5, 1, 0, 3, 2, 100, 98, 35, 82] := by
    decide +kernel
  exact accepted.succeeds nofun encoded

namespace ProxiedResolver

/-- Opens the tunnel to the nameserver. -/
def toNameserver : Dial Connection :=
  (tunneledResolver.dialer.withOptions exchangeOptions).dialAddress
    (toString tunneledResolver.nameserver)

/-- The world in which a lookup that has started goes on. -/
def begun (world : World) : World := world.looked .starts tunneledResolver.dialer.options

/-- The replies of the proxy are the first twelve bytes of the stream. -/
def oneFamilyLookup : tunneledResolver.Success "db" 9042 where
  world := oneFamilyWorld
  options := exchangeOptions
  connection := nameserverConnection
  opened := (toNameserver (begun oneFamilyWorld)).2
  peer := .ofStream oneFamilyStream (.closed ⟨0⟩)
  origin := oneFamilyStream.take 12
  stream := oneFamilyStream.drop 12
  said := [5, 1, 0, 5, 1, 0, 1, 10, 0, 0, 53, 0, 53]
  addresses := [⟨.v4 ⟨10, 0, 0, 5⟩, 9042, 0⟩]
  behind := (tunneledResolver.lookup "db" 9042 oneFamilyWorld).2
  isName := by decide +kernel
  starts := by decide +kernel
  opens := Dial.run_of_toOption (by decide +kernel)
  delivers := by
    rw [List.take_append_drop]
    exact (Peer.ofStream_plays oneFamilyStream).delivers
  tunnels := by
    refine ⟨rfl, ?_, ?_⟩
    · with_unfolding_all exact ⟨_, rfl, rfl, rfl, rfl, rfl⟩
    · exact List.prefix_append _ _
  returns := Dial.run_of_toOption (by decide +kernel)

theorem oneFamilyLookup_reads {first second : Bytes}
    (reads : oneFamilyLookup.Reads first second) :
    frame first ++ frame second = oneFamilyStream.drop 12 := by
  obtain ⟨small, otherSmall, start, -⟩ := reads
  let messages : List Bytes := [[0, 0, 0x81, 0x80, 0, 0, 0, 1, 0, 0, 0, 0,
    0, 0, 1, 0, 1, 0, 0, 0, 60, 0, 4, 10, 0, 0, 5], [0, 0, 0x81, 0x82, 0, 0, 0, 0, 0, 0, 0, 0]]
  have whole : messages.flatMap frame = oneFamilyStream.drop 12 := by decide
  have framed : Framed 2 messages := ⟨rfl, by decide⟩
  rw [← frames_pair] at start ⊢
  have begins : messages.flatMap frame <+: oneFamilyStream.drop 12 := whole ▸ List.prefix_refl _
  rw [(Framed.pair small otherSmall).unique framed start begins, whole]

/-- The nameserver keeps silent within the length of its second reply. -/
def brokenOffReplies : Bytes := (oneFamilyStream.drop 12).take 30

def brokenOffWorld : World :=
  { World.isolated with
    network := fun _ _ =>
      .accepted ⟨0⟩ (.ofStream (oneFamilyStream.take 12 ++ brokenOffReplies) .silence) }

theorem brokenOff_opens :
    toNameserver (begun brokenOffWorld) =
      (.ok nameserverConnection, (toNameserver (begun brokenOffWorld)).2) :=
  Dial.run_of_toOption (by decide +kernel)

theorem brokenOff_awaits (options : DialOptions) :
    nameserverConnection.Awaits .keepsSilent options brokenOffReplies
      (toNameserver (begun brokenOffWorld)).2 := by
  have recites := Peer.ofStream_recites (oneFamilyStream.take 12 ++ brokenOffReplies) .keepsSilent
  have talks : Socket.Talks ⟨0⟩ (.ofStream (oneFamilyStream.take 12 ++ brokenOffReplies) .silence)
      oneFamilyLookup.said 12 (toNameserver (begun brokenOffWorld)).2 := by
    with_unfolding_all exact ⟨_, rfl, rfl, rfl, rfl, rfl⟩
  exact ⟨rfl, brokenOffReplies, rfl, _, ⟨0⟩, _, oneFamilyStream.take 12, recites, talks, nofun⟩

end ProxiedResolver

/-- The answer is cut within its head, the reply in front of the length of its address, and the
nameserver's replies within the length of the second one. -/
theorem truncated_replies_fail_half_way :
    (Http.openTunnel ⟨"db", 9042⟩ none .default ⟨0⟩).Ensures
      (.linked (.ofStream (grantedHead.take 17) (.closed ⟨0⟩)))
      (fun result _ => Ending.hangsUp.Fails result) ∧
    (Socks.openTunnel ⟨"db", 9042⟩ none .default ⟨0⟩).Ensures
      (.linked (.ofStream (grantedReplies.take 6) .silence))
      (fun result _ => Ending.keepsSilent.Fails result) ∧
    (ProxiedResolver.tunneledResolver.lookup "db" 9042).Ensures ProxiedResolver.brokenOffWorld
      (fun result _ => Ending.keepsSilent.Fails result) := by
  have starts : DialOptions.default.started? ⟨0⟩ = some ProxiedResolver.exchangeOptions := by decide
  have enough (peer : Peer) (count : Nat) :
      ProxiedResolver.exchangeOptions.Enough (.linked peer) count ⟨0⟩ := by
    have deadline : ProxiedResolver.exchangeOptions.deadline = some ⟨30 * Duration.perSecond⟩ := by
      decide
    apply DialOptions.enough_of_prompt deadline fun _ => rfl
    rw [Nat.mul_zero]
    exact Nat.mul_pos (by decide) (by decide)
  refine ⟨?_, ?_, ?_⟩
  · apply (truncated_replies_fail .hangsUp).1 _ none grantedHead _ grantedHead_succeeds
    · decide +kernel
    · exact List.take_prefix 17 grantedHead
    · decide +kernel
    · exact starts
    · exact World.linked_awaits (enough _ _)
  · apply (truncated_replies_fail .keepsSilent).2.1 _ none grantedReplies _ grantedReplies_succeed
    · exact List.take_prefix 6 grantedReplies
    · decide
    · exact starts
    · exact World.linked_awaits (enough _ _)
  · obtain ⟨first, second, reads, fails⟩ := (truncated_replies_fail .keepsSilent).2.2
      ProxiedResolver.tunneledResolver "db" 9042 ProxiedResolver.oneFamilyLookup
    rw [ProxiedResolver.oneFamilyLookup_reads reads] at fails
    apply fails ProxiedResolver.brokenOffReplies
    · exact List.take_prefix _ _
    · decide
    · exact starts
    · exact ProxiedResolver.brokenOff_opens
    · exact ProxiedResolver.brokenOff_awaits _
    · with_unfolding_all exact ⟨rfl, rfl⟩

end ProxyDial
