import ProxyDial.Proofs.Cluster.Reachable
import ProxyDial.Proofs.Dial.Installed
import ProxyDial.Proofs.Net.Confined

set_option autoImplicit false

/-! What a call that fails leaves behind. The handle is as it was, and so is the resolver for all.
Only a session that could not be opened leaves anything in the world: connections that are closed
again. So the session before it goes on as if nothing had happened. -/

namespace ProxyDial
open Text

/-- A connection from before is in its place, and nothing has happened on it. -/
theorem World.Closes.alike {before behind : World} (closes : before.Closes behind) {socket : Socket}
    (there : socket.id < before.links.length) : socket.Alike behind before := by
  obtain ⟨closed, links, -⟩ := closes
  unfold Socket.Alike
  rw [links, List.getElem?_append_left there]

theorem Dial.ofExcept_failed {α : Type} {outcome : Except Error α} {world behind : World}
    {abort : Abort} (run : Dial.ofExcept outcome world = (.error abort, behind)) :
    behind = world := by
  cases outcome with
  | ok value => cases run
  | error error =>
      cases run
      rfl

namespace Cluster

variable {cluster : Cluster} {world behind : World} {abort : Abort} {error : Error}

theorem withNameserver_failed {nameserver : String}
    (run : cluster.withNameserver nameserver world = (.error abort, behind)) : behind = world := by
  cases through : cluster.proxy with
  | none =>
      rw [withNameserver_noProxy through] at run
      cases run
      rfl
  | some proxy =>
      rw [withNameserver_run through] at run
      split at run
      · cases run
      · cases run
        rfl

/-- A session that cannot be opened: its dial has failed, and the session before it stays. -/
theorem createSession_failed
    (run : cluster.createSession world = (.error (.failed error), behind)) :
    cluster.config.openConnection world = (.error (.failed error), behind) := by
  unfold createSession at run
  rw [Dial.bind_run] at run
  cases dialed : cluster.config.openConnection world with
  | mk outcome opened =>
      rw [dialed] at run
      cases outcome with
      | error abort =>
          cases run
          rfl
      | ok connection =>
          obtain ⟨closed, closedRun⟩ := closeSession_run cluster opened
          simp only at run
          rw [Dial.bind_run, closedRun] at run
          cases run

/-- A step that fails installs no resolver, and leaves nothing open of what it has opened. -/
theorem perform_failed {call : Call}
    (run : cluster.perform call world = (.error (.failed error), behind)) :
    behind.installed = world.installed ∧ world.Closes behind := by
  have nothing (same : behind = world) :
      behind.installed = world.installed ∧ world.Closes behind := by
    subst same
    exact ⟨rfl, .refl behind⟩
  cases call with
  | setLogin login => cases run
  | setAuthKeyspace name => cases run
  | setOptions options => cases run
  | setProxy explicit environment => exact nothing (Dial.ofExcept_failed run)
  | installProxy proxy shape => exact nothing (Dial.ofExcept_failed run)
  | setNameserver nameserver =>
      change (cluster.withNameserver nameserver >>= fun found => pure found.1) world = _ at run
      rw [Dial.bind_run] at run
      cases outcome : cluster.withNameserver nameserver world with
      | mk result left =>
          rw [outcome] at run
          cases result with
          | ok found => cases run
          | error abort =>
              cases run
              exact nothing (withNameserver_failed outcome)
  | setTls authority certificate key skip => exact nothing (Dial.ofExcept_failed run)
  | createSession =>
      have dialed := createSession_failed run
      have installed := (cluster.config.openConnection_keepsResolver world).of_run dialed
      have closes := (cluster.config.openConnection_accounts world).of_run dialed
      exact ⟨installed, closes⟩
  | closeSession =>
      obtain ⟨closed, closedRun⟩ := closeSession_run cluster world
      have impossible := run.symm.trans closedRun
      cases impossible

end Cluster

/-- A call that fails leaves every place of the handle as it was, and the resolver for all. The
connections that it has opened are closed again, and the session says and hears what it would have
said and heard without the call. -/
theorem Held.failed_call_leaves_handle {hosts : List String} {call : Call} {held behind : Held}
    {error : Error} (reachable : held.Reachable hosts)
    (failed : InPlace.call call held = (.error (.failed error), behind)) :
    behind.cluster = held.cluster ∧ behind.world.installed = held.world.installed ∧
      held.world.Closes behind.world ∧
      ∀ session, held.cluster.session = some session →
        behind.world.links[session.socket.id]? = held.world.links[session.socket.id]? ∧
          ∀ uses, (session.talk uses behind.world).1 = (session.talk uses held.world).1 := by
  rw [InPlace.call_run] at failed
  cases run : held.cluster.perform call held.world with
  | mk result world =>
      rw [run] at failed
      cases result with
      | ok next => cases failed
      | error abort =>
          cases failed
          obtain ⟨installed, closes⟩ := Cluster.perform_failed run
          refine ⟨rfl, installed, closes, ?_⟩
          intro session holds
          have alike := closes.alike (reachable.session_within session holds)
          exact ⟨alike.link, fun uses => (session.talk_confined uses _ _ alike).1⟩

/-- A host that can be reached once. The peer says two bytes. -/
def onceReached : World :=
  { World.isolated with
    network := fun made _ =>
      if made = 0 then .accepted ⟨0⟩ (.ofStream [104, 105] (.closed ⟨0⟩))
      else .refused ⟨0⟩ .unreachable }

/-- A handle with a session at that host, where no other one can be opened. -/
def heldOnce : Held := (Held.start ["10.0.0.5"] onceReached).call .createSession

/-- The session is still there when the next one fails, and the peer is still heard. -/
theorem Held.failed_session_keeps_one_before : heldOnce.Reachable ["10.0.0.5"] ∧
    ∃ error behind session,
      InPlace.call .createSession heldOnce = (.error (.failed error), behind) ∧
      heldOnce.cluster.session = some session ∧
      behind.cluster.session = some session ∧
      (session.talk [.read 2] behind.world).1.toOption.map (List.map Except.toOption) =
        some [some [104, 105]] := by
  have refused : (heldOnce.cluster.createSession heldOnce.world).1.isOk = false := by
    decide +kernel
  have caught : (heldOnce.cluster.createSession.attempt heldOnce.world).1.isOk = true := by
    decide +kernel
  have session : heldOnce.cluster.session =
      some ⟨.plain (.direct ⟨0⟩), "10.0.0.5:9042"⟩ := by
    decide +kernel
  have heard : (Connection.talk [.read 2] ⟨.plain (.direct ⟨0⟩), "10.0.0.5:9042"⟩
      heldOnce.world).1.toOption.map (List.map Except.toOption) = some [some [104, 105]] := by
    decide +kernel
  obtain ⟨error, world, run⟩ := Dial.run_of_caught refused caught
  have failed : InPlace.call .createSession heldOnce =
      (.error (.failed error), ⟨heldOnce.cluster, world⟩) := by
    rw [InPlace.call_run]
    change heldOnce.replaced (heldOnce.cluster.createSession heldOnce.world) = _
    rw [run]
    rfl
  have reachable : heldOnce.Reachable ["10.0.0.5"] := (Reachable.start onceReached).call _
  obtain ⟨sameCluster, -, -, goesOn⟩ := failed_call_leaves_handle reachable failed
  obtain ⟨-, sameTalk⟩ := goesOn _ session
  refine ⟨reachable, error, _, _, failed, session, ?_, ?_⟩
  · rw [sameCluster]
    exact session
  · rw [sameTalk]
    exact heard

end ProxyDial
