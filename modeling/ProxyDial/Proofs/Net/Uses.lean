import ProxyDial.Net.Stream
import ProxyDial.Proofs.Net.Script

set_option autoImplicit false

/-! What comes of a stream with bytes held back when it is used: read by any sizes, and written to,
in any order. Every byte that is held or arrives is read once and in order, and what is written is
said to the peer, as far as the peer takes it. -/

namespace ProxyDial
open Text

/-- A use of a stream by its owner. -/
inductive Use
  | read (size : Nat)
  | write (bytes : Bytes)
  deriving DecidableEq, Repr

/-- What has come of some uses. -/
structure Account where
  got : Bytes
  /-- What was to be written, and how that went. -/
  puts : List (Bytes × Except Fault Unit)
  /-- A read that asked for something has met the end of the stream. -/
  ended : Bool

namespace Account

def start : Account := ⟨[], [], false⟩

/-- The account after a read of some size. -/
def read (size : Nat) (result : Except Fault Bytes) (account : Account) : Account :=
  match result with
  | .ok bytes =>
      { account with
        got := account.got ++ bytes
        ended := account.ended || (bytes.isEmpty && 0 < size) }
  | .error _ => account

def write (bytes : Bytes) (result : Except Fault Unit) (account : Account) : Account :=
  { account with puts := account.puts ++ [(bytes, result)] }

end Account

/-- What a peer gets of some writes, in their order: all of one that succeeds, and a beginning of
one that fails. -/
inductive Carried : List (Bytes × Except Fault Unit) → Bytes → Prop
  | start : Carried [] []
  | whole {puts : List (Bytes × Except Fault Unit)} {gone : Bytes} (carried : Carried puts gone)
      (bytes : Bytes) : Carried (puts ++ [(bytes, .ok ())]) (gone ++ bytes)
  | broken {puts : List (Bytes × Except Fault Unit)} {gone part bytes : Bytes}
      (carried : Carried puts gone) (inPart : part <+: bytes) (notWhole : part ≠ bytes)
      (fault : Fault) : Carried (puts ++ [(bytes, .error fault)]) (gone ++ part)

/-- Where every write succeeds, the peer gets all that was to be written. -/
theorem Carried.all {puts : List (Bytes × Except Fault Unit)} {gone : Bytes}
    (carried : Carried puts gone) (ok : ∀ put ∈ puts, put.2 = .ok ()) :
    gone = (puts.map Prod.fst).flatten := by
  induction carried with
  | start => rfl
  | whole carried bytes ih =>
      have before := ih fun put there => ok put (List.mem_append_left _ there)
      rw [before, List.map_append, List.flatten_append]
      simp only [List.map_cons, List.map_nil, List.flatten_cons, List.flatten_nil, List.append_nil]
  | broken carried inPart notWhole fault ih =>
      have impossible := ok _ (List.mem_append_right _ (List.mem_singleton_self _))
      cases impossible

namespace Use

/-- Whether a use asks for bytes. -/
def asks : Use → Bool
  | read size => 0 < size
  | write _ => false

/-- What a use writes, if it is a write. -/
def writes : Use → List Bytes
  | read _ => []
  | write bytes => [bytes]

def on (use : Use) (stream : RawStream) (account : Account) : Dial (RawStream × Account) :=
  match use with
  | read size => do
      let (result, stream) ← stream.read size
      return (stream, account.read size result)
  | write bytes => do return (stream, account.write bytes (← stream.write bytes))

/-- One use after the other. -/
def all : List Use → RawStream → Account → Dial (RawStream × Account)
  | [], stream, account => return (stream, account)
  | use :: uses, stream, account => do
      let (stream, account) ← use.on stream account
      all uses stream account

end Use

/-- The socket is open towards a peer, and its reads and writes may take any time. -/
def Socket.Flows (socket : Socket) (peer : Peer) (sent : Bytes) (received : Nat)
    (world : World) : Prop :=
  ∃ link, world.links[socket.id]? = some link ∧ link.isOpen = true ∧ link.peer = peer ∧
    link.sent = sent ∧ link.received = received ∧ link.readLimit = none ∧ link.writeLimit = none

section
variable {socket : Socket} {peer : Peer} {script : Bytes → Bytes} {said : Bytes} {received : Nat}
  {world : World}

theorem Socket.Flows.talks (flows : socket.Flows peer said received world) :
    socket.Talks peer said received world := by
  obtain ⟨link, here, isOpen, samePeer, sameSent, sameReceived, -⟩ := flows
  exact ⟨link, here, isOpen, samePeer, sameSent, sameReceived⟩

/-- A read for nothing gives nothing. -/
theorem Socket.Flows.read_zero (flows : socket.Flows peer said received world) :
    socket.read 0 world = (.ok (.ok []), world) := by
  obtain ⟨link, here, -⟩ := flows
  simp only [Socket.read, Dial.bind_run, Dial.get_run, here, decide_true, Bool.or_true, if_true]
  rfl

theorem Socket.Flows.read (flows : socket.Flows peer said received world) {size : Nat}
    (positive : 0 < size) :
    ∃ behind, socket.read size world =
        (.ok ((peer.next said received).meets none size).1, behind) ∧
      match ((peer.next said received).meets none size).1 with
      | .ok bytes => socket.Flows peer said (received + bytes.length) behind
      | .error _ => socket.Flows peer said received behind := by
  obtain ⟨link, here, isOpen, rfl, rfl, rfl, noLimit, unbound⟩ := flows
  obtain ⟨behind, run, there, -⟩ := read_run here isOpen positive
  rw [noLimit] at run there
  refine ⟨behind, run, ?_⟩
  cases result : ((link.peer.next link.sent link.received).meets none size).1 with
  | ok bytes =>
      rw [result] at there
      exact ⟨_, there, isOpen, rfl, rfl, rfl, noLimit, unbound⟩
  | error fault =>
      rw [result] at there
      exact ⟨_, there, isOpen, rfl, rfl, rfl, noLimit, unbound⟩

/-- A write is said as a whole, or it fails and a beginning of it is said. -/
theorem Socket.Flows.write (flows : socket.Flows peer said received world) (bytes : Bytes) :
    ∃ result part behind, socket.write bytes world = (.ok result, behind) ∧
      socket.Flows peer (said ++ part) received behind ∧
      (peer.TakesAll → result = .ok ()) ∧
      ∀ puts gone, Carried puts gone → Carried (puts ++ [(bytes, result)]) (gone ++ part) := by
  obtain ⟨link, here, isOpen, rfl, rfl, rfl, noLimit, unbound⟩ := flows
  cases flow : link.peer.outflow link.writeLimit link.received 0 bytes link.sent with
  | mk gone result time =>
      obtain ⟨behind, run, there, -⟩ := write_run here isOpen bytes flow
      have pours := link.peer.outflow_pours link.writeLimit link.received 0 bytes link.sent
      have takes : link.peer.TakesAll → result = .ok () := by
        intro takes
        rw [takes.outflow (fun _ bound => by rw [unbound] at bound; cases bound)] at flow
        exact (congrArg Outflow.result flow).symm
      rw [flow] at pours
      cases pours with
      | whole =>
          exact ⟨_, bytes, behind, run, ⟨_, there, isOpen, rfl, rfl, rfl, noLimit, unbound⟩, takes,
            fun _ _ carried => carried.whole bytes⟩
      | broken _ breaks =>
          exact ⟨_, _, behind, run, ⟨_, there, isOpen, rfl, rfl, rfl, noLimit, unbound⟩, takes,
            fun _ _ carried => carried.broken breaks.inPart breaks.notWhole _⟩

/-- The stream held some bytes at its start, with so much heard from the peer by then. Of what was
held and what more has been heard, everything is read or left; and the peer has got what the writes
have carried. -/
structure Serves (socket : Socket) (peer : Peer) (script : Bytes → Bytes)
    (start held heard : Bytes) (account : Account) (gone left more : Bytes) (world : World) :
    Prop where
  flows : socket.Flows peer (start ++ gone) (heard ++ more).length world
  inScript : heard ++ more <+: script (start ++ gone)
  conserved : account.got ++ left = held ++ more
  ended : account.ended = true → left = [] ∧
    ∀ later, (script (start ++ gone ++ later)).length ≤ (heard ++ more).length
  carried : Carried account.puts gone

/-- The account tells of all that some uses have written, in their order. A peer that takes
everything lets every write succeed. -/
def Account.Puts (peer : Peer) (written : List Bytes) (before after : Account) : Prop :=
  ∃ puts, after.puts = before.puts ++ puts ∧ puts.map Prod.fst = written ∧
    (peer.TakesAll → ∀ put ∈ puts, put.2 = .ok ())

theorem Account.puts_nothing (peer : Peer) (account : Account) : account.Puts peer [] account :=
  ⟨[], (List.append_nil _).symm, rfl, fun _ _ => nofun⟩

theorem Account.Puts.trans {peer : Peer} {first second : List Bytes}
    {before middle after : Account} (puts : before.Puts peer first middle)
    (more : middle.Puts peer second after) : before.Puts peer (first ++ second) after := by
  obtain ⟨one, same, written, ok⟩ := puts
  obtain ⟨other, sameLater, writtenLater, okLater⟩ := more
  refine ⟨one ++ other, ?_, ?_, ?_⟩
  · rw [sameLater, same, List.append_assoc]
  · rw [List.map_append, written, writtenLater]
  · intro takes put there
    rcases List.mem_append.mp there with early | late
    · exact ok takes put early
    · exact okLater takes put late

/-- What a use adds to an account. -/
structure Account.Extends (peer : Peer) (use : Use) (before after : Account) : Prop where
  grows : before.got.length ≤ after.got.length
  staysEnded : before.ended = true → after.ended = true
  asked : ∀ stream patience, peer.Plays stream patience → use.asks = true →
    before.got.length < after.got.length ∨ after.ended = true
  puts : before.Puts peer use.writes after

variable {start held heard gone left more : Bytes} {account : Account}

/-- A read of bytes that are held back. -/
theorem read_held_serves (size : Nat) (notEmpty : left ≠ [])
    (serves : Serves socket peer script start held heard account gone left more world) :
    Serves socket peer script start held heard (account.read size (.ok (left.take size)))
        gone (left.drop size) more world ∧
      account.Extends peer (.read size) (account.read size (.ok (left.take size))) := by
  have goesOn : account.ended = false := by
    cases ended : account.ended with
    | false => rfl
    | true => exact absurd (serves.ended ended).1 notEmpty
  have some : ((left.take size).isEmpty && decide (0 < size)) = false := by
    cases size with
    | zero => simp
    | succ size =>
        cases left with
        | nil => exact absurd rfl notEmpty
        | cons byte left => rfl
  refine ⟨⟨serves.flows, serves.inScript, ?_, ?_, serves.carried⟩, ⟨?_, ?_, ?_, ?_⟩⟩
  · simp only [Account.read]
    rw [List.append_assoc, List.take_append_drop]
    exact serves.conserved
  · intro impossible
    simp only [Account.read] at impossible
    rw [goesOn, some] at impossible
    cases impossible
  · simp [Account.read]
  · intro impossible
    rw [goesOn] at impossible
    cases impossible
  · intro stream patience _ asks
    have positive : 0 < size := of_decide_eq_true asks
    have some := List.length_pos_iff.mpr notEmpty
    refine Or.inl ?_
    simp only [Account.read, List.length_append, List.length_take]
    omega
  · exact account.puts_nothing peer

/-- A read of what arrives, once nothing is held back. -/
theorem read_arrival_serves (delivers : peer.Delivers script) {size : Nat} (positive : 0 < size)
    (serves : Serves socket peer script start held heard account gone [] more world) :
    ∃ result behind further, socket.read size world = (.ok result, behind) ∧
      Serves socket peer script start held heard (account.read size result) gone [] further behind ∧
      account.Extends peer (.read size) (account.read size result) := by
  obtain ⟨behind, run, flows⟩ := serves.flows.read positive
  cases met : (peer.next (start ++ gone) (heard ++ more).length).meets none size with
  | mk result delay =>
      rw [met] at run flows
      cases result with
      | error fault =>
          refine ⟨.error fault, behind, more, run,
            ⟨flows, serves.inScript, serves.conserved, serves.ended, serves.carried⟩,
            ⟨Nat.le_refl _, id, ?_, account.puts_nothing peer⟩⟩
          intro stream patience plays _
          exact absurd met (plays.meets_ne_error _ _ _)
      | ok bytes =>
          obtain ⟨here, -, atEnd⟩ := delivers.meets positive met
          have further : socket.Exchanged peer script (start ++ gone)
              (heard ++ more ++ bytes) behind :=
            Socket.Exchanged.hear ⟨serves.flows.talks, serves.inScript⟩ here flows.talks
          refine ⟨.ok bytes, behind, more ++ bytes, run, ⟨?_, ?_, ?_, ?_, serves.carried⟩,
            ⟨?_, ?_, ?_, account.puts_nothing peer⟩⟩
          · rw [← List.append_assoc, List.length_append]
            exact flows
          · rw [← List.append_assoc]
            exact further.inScript
          · have conserved := serves.conserved
            rw [List.append_nil] at conserved
            simp only [Account.read, List.append_nil]
            rw [conserved, List.append_assoc]
          · intro ended
            refine ⟨rfl, fun later => ?_⟩
            have bound : (script (start ++ gone ++ later)).length ≤
                (heard ++ more).length := by
              simp only [Account.read, Bool.or_eq_true, Bool.and_eq_true] at ended
              rcases ended with before | ⟨empty, -⟩
              · exact (serves.ended before).2 later
              · exact atEnd (List.isEmpty_iff.mp empty) later
            rw [← List.append_assoc]
            exact Nat.le_trans bound (List.prefix_append (heard ++ more) bytes).length_le
          · simp [Account.read]
          · intro ended
            simp only [Account.read, ended, Bool.true_or]
          · intro _ _ _ _
            cases bytes with
            | nil =>
                refine Or.inr ?_
                simp [Account.read, positive]
            | cons byte bytes =>
                refine Or.inl ?_
                simp [Account.read]

/-- A write, however much of it the peer takes. -/
theorem write_serves (delivers : peer.Delivers script) (bytes : Bytes)
    (serves : Serves socket peer script start held heard account gone left more world) :
    ∃ result part behind, socket.write bytes world = (.ok result, behind) ∧
      Serves socket peer script start held heard (account.write bytes result) (gone ++ part) left
        more behind ∧
      account.Extends peer (.write bytes) (account.write bytes result) := by
  obtain ⟨result, part, behind, run, flows, takes, carries⟩ := serves.flows.write bytes
  refine ⟨result, part, behind, run, ⟨?_, ?_, serves.conserved, ?_, ?_⟩,
    ⟨Nat.le_refl _, id, ?_, ?_⟩⟩
  · rw [← List.append_assoc]
    exact flows
  · rw [← List.append_assoc]
    exact serves.inScript.trans (delivers.grows _ part)
  · intro ended
    obtain ⟨empty, bound⟩ := serves.ended ended
    refine ⟨empty, fun later => ?_⟩
    rw [← List.append_assoc, List.append_assoc _ part]
    exact bound (part ++ later)
  · exact carries _ _ serves.carried
  · intro _ _ _ impossible
    cases impossible
  · refine ⟨[(bytes, result)], rfl, rfl, ?_⟩
    intro all put there
    rw [List.mem_singleton.mp there]
    exact takes all

theorem tunneled_read_held (size : Nat) (notEmpty : left ≠ []) :
    RawStream.read size (.tunneled ⟨left, socket⟩) world =
      (.ok (.ok (left.take size), .tunneled ⟨left.drop size, socket⟩), world) := by
  cases left with
  | nil => exact absurd rfl notEmpty
  | cons byte left => rfl

theorem tunneled_read_inner {size : Nat} {result : Except Fault Bytes} {behind : World}
    (run : socket.read size world = (.ok result, behind)) :
    RawStream.read size (.tunneled ⟨[], socket⟩) world =
      (.ok (result, .tunneled ⟨[], socket⟩), behind) := by
  simp only [RawStream.read, Rewind.read, RawStream.readSocket, List.isEmpty_nil, if_true,
    Dial.bind_run, run]
  rfl

/-- What one use does. -/
theorem Use.on_serves (delivers : peer.Delivers script) (use : Use)
    (serves : Serves socket peer script start held heard account gone left more world) :
    (use.on (.tunneled ⟨left, socket⟩) account).Ensures world fun result behind =>
      ∃ said rest further next, result = .ok (.tunneled ⟨rest, socket⟩, next) ∧
        Serves socket peer script start held heard next said rest further behind ∧
        account.Extends peer use next := by
  cases use with
  | write bytes =>
      obtain ⟨result, part, behind, run, served, extended⟩ := write_serves delivers bytes serves
      apply Dial.ensures_bind_of_eq run
      exact Dial.ensures_pure ⟨gone ++ part, left, more, _, rfl, served, extended⟩
  | read size =>
      by_cases empty : left = []
      · subst empty
        by_cases zero : size = 0
        · subst zero
          apply Dial.ensures_bind_of_eq (tunneled_read_inner serves.flows.read_zero)
          have same : account.read 0 (.ok []) = account := by simp [Account.read]
          refine Dial.ensures_pure ⟨gone, [], more, _, rfl, ?_, ?_⟩
          · rw [same]
            exact serves
          · rw [same]
            refine ⟨Nat.le_refl _, id, ?_, account.puts_nothing peer⟩
            intro _ _ _ impossible
            cases impossible
        · obtain ⟨result, behind, further, run, served, extended⟩ :=
            read_arrival_serves delivers (Nat.pos_of_ne_zero zero) serves
          apply Dial.ensures_bind_of_eq (tunneled_read_inner run)
          exact Dial.ensures_pure ⟨gone, [], further, _, rfl, served, extended⟩
      · obtain ⟨served, extended⟩ := read_held_serves size empty serves
        apply Dial.ensures_bind_of_eq (tunneled_read_held size empty)
        exact Dial.ensures_pure ⟨gone, _, more, _, rfl, served, extended⟩

/-- What a sequence of uses adds to an account. -/
structure Account.Accrues (peer : Peer) (uses : List Use) (before after : Account) : Prop where
  asked : ∀ stream patience, peer.Plays stream patience →
    before.got.length + uses.countP Use.asks ≤ after.got.length ∨ after.ended = true
  puts : before.Puts peer (uses.flatMap Use.writes) after

theorem Account.Extends.accrues {use : Use} {uses : List Use} {before middle after : Account}
    (first : before.Extends peer use middle) (others : middle.Accrues peer uses after)
    (stays : middle.ended = true → after.ended = true) :
    before.Accrues peer (use :: uses) after where
  asked := by
    intro stream patience plays
    rcases others.asked stream patience plays with grown | ended
    · cases asks : use.asks with
      | false =>
          have grows := first.grows
          refine Or.inl ?_
          rw [List.countP_cons_of_neg (by rw [asks]; exact Bool.false_ne_true)]
          omega
      | true =>
          rcases first.asked stream patience plays asks with grows | ended
          · refine Or.inl ?_
            rw [List.countP_cons_of_pos asks]
            omega
          · exact Or.inr (stays ended)
    · exact Or.inr ended
  puts := first.puts.trans others.puts

/-- What any sequence of uses does. -/
theorem Use.all_serves (delivers : peer.Delivers script) (uses : List Use)
    (serves : Serves socket peer script start held heard account gone left more world) :
    (Use.all uses (.tunneled ⟨left, socket⟩) account).Ensures world fun result behind =>
      ∃ said rest further last, result = .ok (.tunneled ⟨rest, socket⟩, last) ∧
        Serves socket peer script start held heard last said rest further behind ∧
        (account.ended = true → last.ended = true) ∧ account.Accrues peer uses last := by
  induction uses generalizing account gone left more world with
  | nil =>
      refine Dial.ensures_pure ⟨gone, left, more, account, rfl, serves, id, ?_,
        account.puts_nothing peer⟩
      intro _ _ _
      exact Or.inl (Nat.le_refl _)
  | cons use uses ih =>
      apply Dial.ensures_bind
      refine (Use.on_serves delivers use serves).mono ?_
      rintro result behind ⟨said, rest, further, next, rfl, served, extended⟩
      refine (ih served).mono ?_
      rintro result behind ⟨said, rest, further, last, same, served, stays, accrued⟩
      exact ⟨said, rest, further, last, same, served,
        fun ended => stays (extended.staysEnded ended), extended.accrues accrued stays⟩

end

end ProxyDial
