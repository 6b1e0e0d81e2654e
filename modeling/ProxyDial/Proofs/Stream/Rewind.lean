import ProxyDial.Stream.Rewind

set_option autoImplicit false

/-! What a stream with held bytes does to the bytes of both streams. Each use gives bytes away from
the front, the held ones before those of the inner stream, and what is given and what is left make
up what there was. From this the same follows for any uses one after the other, with reads of the
inner stream, writes and flushes between them. -/

namespace ProxyDial
open Text

namespace MemoryStream

variable {readInner : Nat → MemoryStream → Except Fault Bytes × MemoryStream}

/-- Reads that serve a stream in memory in pieces of any sizes. A piece is not larger than what is
asked for, and not empty unless nothing is asked for. -/
def ServedBy (readInner : Nat → MemoryStream → Except Fault Bytes × MemoryStream) : Prop :=
  ∀ size stream, ∃ piece ≤ size, (0 < size → 0 < piece) ∧ readInner size stream = stream.read piece

theorem servedBy_read : ServedBy read :=
  fun size _ => ⟨size, Nat.le_refl size, id, rfl⟩

/-- Once all bytes are read, all that reads meet is an interruption. -/
def Interrupts (stream : MemoryStream) : Prop :=
  ∃ fault, stream.ending = some fault ∧ fault.kind = .interrupted

/-- The stream once everything is read. -/
def drained (stream : MemoryStream) : MemoryStream := { stream with unread := [] }

theorem ending_eq_of_drained {one other : MemoryStream} (same : one.drained = other.drained) :
    one.ending = other.ending := by
  have endings := congrArg MemoryStream.ending same
  exact endings

theorem interrupts_iff_of_ending {one other : MemoryStream} (same : one.ending = other.ending) :
    one.Interrupts ↔ other.Interrupts := by
  unfold Interrupts
  rw [same]

/-- A read meets the fault at the end of a stream, or takes a piece from the front. -/
theorem read_cases (piece : Nat) (stream : MemoryStream) :
    (∃ fault, stream.unread = [] ∧ stream.ending = some fault ∧
      stream.read piece = (.error fault, stream)) ∨
    ((stream.unread = [] → stream.ending = none) ∧
      stream.read piece =
        (.ok (stream.unread.take piece), { stream with unread := stream.unread.drop piece })) := by
  obtain ⟨unread, ending, written, flushes⟩ := stream
  cases unread with
  | nil =>
      cases ending with
      | none => exact .inr ⟨fun _ => rfl, rfl⟩
      | some fault => exact .inl ⟨fault, rfl, rfl, rfl⟩
  | cons byte rest => exact .inr ⟨nofun, rfl⟩

end MemoryStream

namespace Rewind
open MemoryStream

section
variable {σ : Type} {readInner : Nat → σ → Except Fault Bytes × σ} {stream : Rewind σ}

/-- While bytes are held, it does not matter how the inner stream is read. -/
theorem readAlone_of_held (held : stream.held ≠ []) (size : Nat) :
    stream.readAlone readInner size =
      (.ok (stream.held.take size), { stream with held := stream.held.drop size }) := by
  unfold readAlone read
  rw [if_neg (by simpa using held)]
  rfl

theorem readAlone_of_empty (empty : stream.held = []) (size : Nat) :
    stream.readAlone readInner size =
      ((readInner size stream.inner).1,
        { stream with inner := (readInner size stream.inner).2 }) := by
  unfold readAlone read
  rw [if_pos (by simp [empty])]
  rfl

theorem readAll?_of_bytes {behind : Rewind σ} {byte : UInt8} {more : Bytes}
    (read : stream.readAlone readInner portion = (.ok (byte :: more), behind)) (reads : Nat) :
    readAll? readInner (reads + 1) stream =
      (readAll? readInner reads behind).map fun (later, fault, last) =>
        (byte :: more ++ later, fault, last) := by
  rw [readAll?, read]

theorem readAll?_of_end {behind : Rewind σ}
    (read : stream.readAlone readInner portion = (.ok [], behind)) (reads : Nat) :
    readAll? readInner (reads + 1) stream = some ([], none, behind) := by
  rw [readAll?, read]

theorem readAll?_of_error {behind : Rewind σ} {fault : Fault}
    (read : stream.readAlone readInner portion = (.error fault, behind)) (reads : Nat) :
    readAll? readInner (reads + 1) stream =
      if fault.kind = .interrupted then readAll? readInner reads behind
      else some ([], some fault, behind) := by
  rw [readAll?, read]

end

variable {readInner : Nat → MemoryStream → Except Fault Bytes × MemoryStream}

/-- One read of many: held bytes, or if there are none a piece of the inner stream, or what is met
at its end. -/
theorem readAlone_cases (served : ServedBy readInner) (stream : Rewind MemoryStream) :
    (∃ byte more behind, stream.readAlone readInner portion = (.ok (byte :: more), behind) ∧
      stream.held ++ stream.inner.unread =
        byte :: more ++ (behind.held ++ behind.inner.unread) ∧
      behind.inner.drained = stream.inner.drained) ∨
    (stream.held = [] ∧ stream.inner.unread = [] ∧
      stream.readAlone readInner portion =
        ((stream.inner.ending.map Except.error).getD (.ok []), stream)) := by
  obtain ⟨held, inner⟩ := stream
  cases held with
  | cons byte held =>
      refine .inl ⟨byte, held.take 31, ⟨held.drop 31, inner⟩, ?_, ?_, rfl⟩
      · exact readAlone_of_held (List.cons_ne_nil byte held) portion
      · simp [← List.append_assoc]
  | nil =>
      obtain ⟨piece, -, positive, same⟩ := served portion inner
      rw [readAlone_of_empty rfl, same]
      obtain ⟨fault, empty, ending, failed⟩ | ⟨ends, read⟩ := inner.read_cases piece
      · rw [failed, ending]
        exact .inr ⟨rfl, empty, rfl⟩
      · rw [read]
        obtain ⟨unread, ending, written, flushes⟩ := inner
        obtain ⟨rest, rfl⟩ := Nat.exists_eq_succ_of_ne_zero (Nat.ne_of_gt (positive (by decide)))
        cases unread with
        | nil =>
            cases ends rfl
            exact .inr ⟨rfl, rfl, by simp⟩
        | cons byte unread =>
            refine .inl ⟨byte, unread.take rest, _, rfl, ?_, rfl⟩
            simp

/-- Enough reads give all bytes, the held ones first, and meet what is at the end. -/
theorem readAll?_eq_some (served : ServedBy readInner) {reads : Nat} {stream : Rewind MemoryStream}
    (enough : stream.remaining < reads) (ends : ¬ stream.inner.Interrupts) :
    readAll? readInner reads stream =
      some (stream.held ++ stream.inner.unread, stream.inner.ending,
        ⟨[], stream.inner.drained⟩) := by
  induction reads generalizing stream with
  | zero => exact absurd enough (Nat.not_lt_zero _)
  | succ reads ih =>
      obtain ⟨byte, more, behind, read, whole, same⟩ | ⟨noneHeld, noneUnread, read⟩ :=
        readAlone_cases served stream
      · have less : behind.remaining < reads := by
          have lengths := congrArg List.length whole
          simp only [remaining, List.length_append, List.length_cons] at lengths enough ⊢
          omega
        have stillEnds : ¬ behind.inner.Interrupts := by
          rw [interrupts_iff_of_ending (ending_eq_of_drained same)]
          exact ends
        rw [readAll?_of_bytes read, ih less stillEnds, Option.map_some, whole, same,
          ending_eq_of_drained same]
      · obtain ⟨held, unread, ending, written, flushes⟩ := stream
        cases noneHeld
        cases noneUnread
        cases ending with
        | none => exact readAll?_of_end read reads
        | some fault =>
            have notInterrupted : fault.kind ≠ .interrupted := fun kind => ends ⟨fault, rfl, kind⟩
            rw [readAll?_of_error read, if_neg notInterrupted]
            rfl

/-- Where all reads are interrupted in the end, no number of them is enough. -/
theorem readAll?_eq_none (served : ServedBy readInner) {stream : Rewind MemoryStream}
    (interrupts : stream.inner.Interrupts) (reads : Nat) :
    readAll? readInner reads stream = none := by
  induction reads generalizing stream with
  | zero => rfl
  | succ reads ih =>
      obtain ⟨byte, more, behind, read, whole, same⟩ | ⟨-, -, read⟩ :=
        readAlone_cases served stream
      · have still := (interrupts_iff_of_ending (ending_eq_of_drained same)).mpr interrupts
        rw [readAll?_of_bytes read, ih still]
        rfl
      · obtain ⟨fault, ending, kind⟩ := interrupts
        rw [ending] at read
        rw [readAll?_of_error read, if_pos kind]
        exact ih ⟨fault, ending, kind⟩

theorem readToEnd?_eq_some (served : ServedBy readInner) {stream : Rewind MemoryStream}
    (ends : ¬ stream.inner.Interrupts) :
    stream.readToEnd? readInner =
      some (stream.held ++ stream.inner.unread, stream.inner.ending, ⟨[], stream.inner.drained⟩) :=
  readAll?_eq_some served (Nat.lt_succ_self stream.remaining) ends

theorem readToEnd_eq {stream : Rewind MemoryStream} (ends : ¬ stream.inner.Interrupts) :
    stream.readToEnd =
      (stream.held ++ stream.inner.unread, stream.inner.ending, ⟨[], stream.inner.drained⟩) := by
  unfold readToEnd
  rw [readToEnd?_eq_some servedBy_read ends]
  rfl

/-- What can be done with a stream, and with the one under it. -/
inductive Use
  | read (size : Nat)
  | readToEnd
  | readInner (size : Nat)
  | write (bytes : Bytes)
  | flush
  deriving DecidableEq, Repr

def Use.written : Use → Bytes
  | .write bytes => bytes
  | _ => []

/-- What a use gives back: bytes, and the fault that it met. -/
structure Answer where
  bytes : Bytes
  fault : Option Fault
  deriving DecidableEq, Repr

def Answer.nothing : Answer := ⟨[], none⟩

def Answer.ofRead : Except Fault Bytes → Answer
  | .ok bytes => ⟨bytes, none⟩
  | .error fault => ⟨[], some fault⟩

/-- One use of a stream: what it gives back, and the stream behind it. There is neither for a use
that does not come to an end. -/
def perform (readInner : Nat → MemoryStream → Except Fault Bytes × MemoryStream) (use : Use)
    (stream : Rewind MemoryStream) : Option (Answer × Rewind MemoryStream) :=
  match use with
  | .read size =>
      let (result, behind) := stream.readAlone readInner size
      some (.ofRead result, behind)
  | .readToEnd =>
      (stream.readToEnd? readInner).map fun (bytes, fault, behind) => (⟨bytes, fault⟩, behind)
  | .readInner size =>
      let (result, inner) := readInner size stream.inner
      some (.ofRead result, { stream with inner := inner })
  | .write bytes => some (.nothing, stream.mapInner (·.write bytes))
  | .flush => some (.nothing, stream.mapInner .flush)

/-- A use that has come to an end. -/
structure Entry where
  use : Use
  before : Rewind MemoryStream
  answer : Answer
  behind : Rewind MemoryStream
  deriving DecidableEq, Repr

namespace Entry

/-- How many bytes are held no longer. -/
def released (entry : Entry) : Nat := entry.before.buffered - entry.behind.buffered

/-- Of the bytes that are given back, those that had been held. -/
def fromHeld (entry : Entry) : Bytes := entry.answer.bytes.take entry.released

/-- Of the bytes that are given back, those behind the ones that had been held. -/
def fromInner (entry : Entry) : Bytes := entry.answer.bytes.drop entry.released

/-- The use gives back what a read of the inner stream gives, and does nothing else. -/
structure PassesOn (readInner : Nat → MemoryStream → Except Fault Bytes × MemoryStream)
    (size : Nat) (entry : Entry) : Prop where
  notHeld : entry.fromHeld = []
  answer : entry.answer = .ofRead (readInner size entry.before.inner).1
  behind : entry.behind = ⟨entry.before.held, (readInner size entry.before.inner).2⟩

/-- What each use is there for. A read serves held bytes alone, and without any it is a read of the
inner stream. -/
def Does (readInner : Nat → MemoryStream → Except Fault Bytes × MemoryStream)
    (entry : Entry) : Prop :=
  match entry.use with
  | .read size =>
      (entry.before.held ≠ [] →
        entry.answer = ⟨entry.before.held.take size, none⟩ ∧ entry.fromInner = [] ∧
          entry.behind.inner = entry.before.inner) ∧
      (entry.before.held = [] → entry.PassesOn readInner size)
  | .readToEnd =>
      entry.answer =
          ⟨entry.before.held ++ entry.before.inner.unread, entry.before.inner.ending⟩ ∧
        entry.behind = ⟨[], entry.before.inner.drained⟩
  | .readInner size => entry.PassesOn readInner size
  | .write bytes =>
      entry.answer = .nothing ∧
        entry.behind = ⟨entry.before.held, entry.before.inner.write bytes⟩
  | .flush =>
      entry.answer = .nothing ∧ entry.behind = ⟨entry.before.held, entry.before.inner.flush⟩

/-- A use does what it is there for. It gives bytes away once and from the front, writes behind what
has been written, and leaves everything as it was where a single read meets a fault. -/
structure Sound (readInner : Nat → MemoryStream → Except Fault Bytes × MemoryStream)
    (entry : Entry) : Prop where
  does : entry.Does readInner
  held : entry.fromHeld ++ entry.behind.held = entry.before.held
  inner : entry.fromInner ++ entry.behind.inner.unread = entry.before.inner.unread
  ending : entry.behind.inner.ending = entry.before.inner.ending
  written : entry.behind.inner.written = entry.before.inner.written ++ entry.use.written
  flushes : entry.behind.inner.flushes = entry.before.inner.flushes + [entry.use].count .flush
  fault : entry.answer.fault.isSome = true → entry.use = .readToEnd ∨ entry.behind = entry.before

/-- The bytes that are held no longer are those at the front of what is given back. -/
theorem parts_eq {entry : Entry} {taken given : Bytes}
    (held : entry.before.held = taken ++ entry.behind.held)
    (bytes : entry.answer.bytes = taken ++ given) :
    entry.fromHeld = taken ∧ entry.fromInner = given := by
  have released : entry.released = taken.length := by
    simp [Entry.released, buffered, held]
  unfold fromHeld fromInner
  rw [released, bytes]
  exact ⟨List.take_left, List.drop_left⟩

end Entry

/-- Uses one after the other: what has become of each, and the stream behind the last. -/
def run (readInner : Nat → MemoryStream → Except Fault Bytes × MemoryStream) :
    List Use → Rewind MemoryStream → Option (List Entry × Rewind MemoryStream)
  | [], stream => some ([], stream)
  | use :: uses, stream =>
      match stream.perform readInner use with
      | none => none
      | some (answer, behind) =>
          (run readInner uses behind).map fun (log, last) =>
            (⟨use, stream, answer, behind⟩ :: log, last)

/-- What a read of the inner stream gives is what was at its front, and a fault changes nothing. -/
theorem readInner_keeps (served : ServedBy readInner) (size : Nat) (inner : MemoryStream) :
    let answer := Answer.ofRead (readInner size inner).1
    let behind := (readInner size inner).2
    answer.bytes ++ behind.unread = inner.unread ∧ behind.ending = inner.ending ∧
      behind.written = inner.written ∧ behind.flushes = inner.flushes ∧
      (answer.fault.isSome = true → behind = inner) := by
  obtain ⟨piece, -, -, same⟩ := served size inner
  rw [same]
  obtain ⟨fault, empty, -, failed⟩ | ⟨-, read⟩ := inner.read_cases piece
  · rw [failed]
    exact ⟨rfl, rfl, rfl, rfl, fun _ => rfl⟩
  · rw [read]
    exact ⟨List.take_append_drop piece inner.unread, rfl, rfl, rfl, nofun⟩

theorem passesOn_readInner (readInner : Nat → MemoryStream → Except Fault Bytes × MemoryStream)
    (use : Use) (size : Nat) (stream : Rewind MemoryStream) :
    (Entry.mk use stream (.ofRead (readInner size stream.inner).1)
      { stream with inner := (readInner size stream.inner).2 }).PassesOn readInner size where
  notHeld := (Entry.parts_eq rfl rfl).1
  answer := rfl
  behind := rfl

/-- A read of the inner stream that leaves the held bytes alone is sound. -/
theorem sound_of_passesOn (served : ServedBy readInner) {size : Nat} {entry : Entry}
    (passes : entry.PassesOn readInner size) (noWrite : entry.use.written = [])
    (noFlush : [entry.use].count .flush = 0) (does : entry.Does readInner) :
    entry.Sound readInner := by
  obtain ⟨notHeld, answer, behind⟩ := passes
  obtain ⟨unread, ending, written, flushes, fault⟩ :=
    readInner_keeps served size entry.before.inner
  have sameHeld : entry.before.held = [] ++ entry.behind.held := by rw [behind, List.nil_append]
  obtain ⟨-, given⟩ := entry.parts_eq sameHeld rfl
  have inner : entry.behind.inner = (readInner size entry.before.inner).2 := by rw [behind]
  rw [← inner] at unread ending written flushes fault
  rw [← answer] at unread fault
  constructor
  case does => exact does
  case held => rw [notHeld, sameHeld]
  case inner => rw [given, unread]
  case ending => exact ending
  case written => rw [noWrite, List.append_nil, written]
  case flushes => rw [noFlush, Nat.add_zero, flushes]
  case fault =>
    intro failed
    right
    rw [behind, ← inner, fault failed]

/-- A read of held bytes is sound. -/
theorem sound_read_of_held {stream : Rewind MemoryStream} (held : stream.held ≠ []) (size : Nat) :
    (Entry.mk (.read size) stream ⟨stream.held.take size, none⟩
      { stream with held := stream.held.drop size }).Sound readInner := by
  let entry : Entry := ⟨.read size, stream, ⟨stream.held.take size, none⟩,
    { stream with held := stream.held.drop size }⟩
  obtain ⟨fromHeld, fromInner⟩ : entry.fromHeld = stream.held.take size ∧ entry.fromInner = [] :=
    entry.parts_eq (List.take_append_drop size stream.held).symm (List.append_nil _).symm
  change entry.Sound readInner
  constructor
  case does => exact ⟨fun _ => ⟨rfl, fromInner, rfl⟩, fun empty => absurd empty held⟩
  case held =>
    rw [fromHeld]
    exact List.take_append_drop size stream.held
  case inner => rw [fromInner, List.nil_append]
  case ending => rfl
  case written => exact (List.append_nil _).symm
  case flushes => rfl
  case fault => exact nofun

/-- A read of everything is sound. -/
theorem sound_readToEnd (stream : Rewind MemoryStream) :
    (Entry.mk .readToEnd stream ⟨stream.held ++ stream.inner.unread, stream.inner.ending⟩
      ⟨[], stream.inner.drained⟩).Sound readInner := by
  let entry : Entry := ⟨.readToEnd, stream,
    ⟨stream.held ++ stream.inner.unread, stream.inner.ending⟩, ⟨[], stream.inner.drained⟩⟩
  obtain ⟨fromHeld, fromInner⟩ :
      entry.fromHeld = stream.held ∧ entry.fromInner = stream.inner.unread :=
    entry.parts_eq (List.append_nil _).symm rfl
  change entry.Sound readInner
  constructor
  case does => exact ⟨rfl, rfl⟩
  case held => rw [fromHeld, List.append_nil]
  case inner =>
    rw [fromInner]
    exact List.append_nil _
  case ending => rfl
  case written => exact (List.append_nil _).symm
  case flushes => rfl
  case fault => exact fun _ => .inl rfl

/-- A use that gives nothing back, and touches nothing but the record of what is written, is
sound. -/
theorem sound_of_quiet {entry : Entry} (answer : entry.answer = .nothing)
    (held : entry.behind.held = entry.before.held)
    (unread : entry.behind.inner.unread = entry.before.inner.unread)
    (ending : entry.behind.inner.ending = entry.before.inner.ending)
    (written : entry.behind.inner.written = entry.before.inner.written ++ entry.use.written)
    (flushes : entry.behind.inner.flushes =
      entry.before.inner.flushes + [entry.use].count .flush)
    (does : entry.Does readInner) : entry.Sound readInner := by
  have sameHeld : entry.before.held = [] ++ entry.behind.held := by rw [held, List.nil_append]
  have nothing : entry.answer.bytes = [] ++ [] := by
    rw [answer]
    rfl
  obtain ⟨fromHeld, fromInner⟩ := entry.parts_eq sameHeld nothing
  constructor
  case does => exact does
  case held => rw [fromHeld, List.nil_append, held]
  case inner => rw [fromInner, List.nil_append, unread]
  case ending => exact ending
  case written => exact written
  case flushes => exact flushes
  case fault =>
    intro failed
    rw [answer] at failed
    cases failed

theorem perform_read (size : Nat) (stream : Rewind MemoryStream) :
    stream.perform readInner (.read size) =
      some (.ofRead (stream.readAlone readInner size).1, (stream.readAlone readInner size).2) :=
  rfl

theorem perform_readToEnd (served : ServedBy readInner) {stream : Rewind MemoryStream}
    (ends : ¬ stream.inner.Interrupts) :
    stream.perform readInner .readToEnd =
      some (⟨stream.held ++ stream.inner.unread, stream.inner.ending⟩,
        ⟨[], stream.inner.drained⟩) := by
  unfold perform
  rw [readToEnd?_eq_some served ends]
  rfl

theorem perform_readToEnd_of_interrupts (served : ServedBy readInner)
    {stream : Rewind MemoryStream} (interrupts : stream.inner.Interrupts) :
    stream.perform readInner .readToEnd = none := by
  have never : stream.readToEnd? readInner = none := readAll?_eq_none served interrupts _
  unfold perform
  rw [never]
  rfl

/-- A use comes to an end unless it reads everything and is interrupted for ever. -/
theorem perform_eq_none_iff (served : ServedBy readInner) {use : Use}
    {stream : Rewind MemoryStream} :
    stream.perform readInner use = none ↔ use = .readToEnd ∧ stream.inner.Interrupts := by
  cases use with
  | read size => exact ⟨nofun, fun both => nomatch both.1⟩
  | readToEnd =>
      by_cases interrupts : stream.inner.Interrupts
      · simp [perform_readToEnd_of_interrupts served interrupts, interrupts]
      · simp [perform_readToEnd served interrupts, interrupts]
  | readInner size => exact ⟨nofun, fun both => nomatch both.1⟩
  | write bytes => exact ⟨nofun, fun both => nomatch both.1⟩
  | flush => exact ⟨nofun, fun both => nomatch both.1⟩

/-- Every use that comes to an end is sound. -/
theorem perform_sound (served : ServedBy readInner) {use : Use}
    {stream behind : Rewind MemoryStream} {answer : Answer}
    (performed : stream.perform readInner use = some (answer, behind)) :
    (Entry.mk use stream answer behind).Sound readInner := by
  cases use with
  | read size =>
      rw [perform_read] at performed
      by_cases empty : stream.held = []
      · rw [readAlone_of_empty empty] at performed
        cases performed
        have passes := passesOn_readInner readInner (.read size) size stream
        exact sound_of_passesOn served passes rfl rfl
          ⟨fun held => absurd empty held, fun _ => passes⟩
      · rw [readAlone_of_held empty] at performed
        cases performed
        exact sound_read_of_held empty size
  | readToEnd =>
      by_cases interrupts : stream.inner.Interrupts
      · rw [perform_readToEnd_of_interrupts served interrupts] at performed
        cases performed
      · rw [perform_readToEnd served interrupts] at performed
        cases performed
        exact sound_readToEnd stream
  | readInner size =>
      cases performed
      have passes := passesOn_readInner readInner (.readInner size) size stream
      exact sound_of_passesOn served passes rfl rfl passes
  | write bytes =>
      cases performed
      exact sound_of_quiet rfl rfl rfl rfl rfl rfl ⟨rfl, rfl⟩
  | flush =>
      cases performed
      exact sound_of_quiet rfl rfl rfl rfl (List.append_nil _).symm rfl ⟨rfl, rfl⟩

theorem run_cons_of_none {use : Use} {uses : List Use} {stream : Rewind MemoryStream}
    (endless : stream.perform readInner use = none) :
    run readInner (use :: uses) stream = none := by
  rw [run, endless]

theorem run_cons_of_some {use : Use} {uses : List Use} {stream behind : Rewind MemoryStream}
    {answer : Answer} (performed : stream.perform readInner use = some (answer, behind)) :
    run readInner (use :: uses) stream =
      (run readInner uses behind).map fun (log, last) =>
        (⟨use, stream, answer, behind⟩ :: log, last) := by
  rw [run, performed]

/-- A run has taken the bytes of both streams from the front, each once, and has written and flushed
in the order of the uses. -/
structure Accounts (readInner : Nat → MemoryStream → Except Fault Bytes × MemoryStream)
    (uses : List Use) (start : Rewind MemoryStream) (log : List Entry)
    (last : Rewind MemoryStream) : Prop where
  asked : log.map Entry.use = uses
  sound : ∀ entry ∈ log, entry.Sound readInner
  held : log.flatMap Entry.fromHeld ++ last.held = start.held
  inner : log.flatMap Entry.fromInner ++ last.inner.unread = start.inner.unread
  written : last.inner.written = start.inner.written ++ uses.flatMap Use.written
  flushes : last.inner.flushes = start.inner.flushes + uses.count .flush

/-- What holds of each use holds of all of them together. -/
theorem run_accounts (served : ServedBy readInner) {uses : List Use}
    {start last : Rewind MemoryStream} {log : List Entry}
    (ran : run readInner uses start = some (log, last)) :
    Accounts readInner uses start log last := by
  induction uses generalizing start log with
  | nil =>
      cases ran
      exact ⟨rfl, List.forall_mem_nil _, rfl, rfl, (List.append_nil _).symm, rfl⟩
  | cons use uses ih =>
      cases performed : start.perform readInner use with
      | none =>
          rw [run_cons_of_none performed] at ran
          cases ran
      | some found =>
          obtain ⟨answer, behind⟩ := found
          rw [run_cons_of_some performed] at ran
          obtain ⟨⟨later, end_⟩, rest, same⟩ := Option.map_eq_some_iff.mp ran
          cases same
          have first := perform_sound served performed
          have accounts := ih rest
          constructor
          case asked => rw [List.map_cons, accounts.asked]
          case sound => exact List.forall_mem_cons.mpr ⟨first, accounts.sound⟩
          case held => rw [List.flatMap_cons, List.append_assoc, accounts.held, first.held]
          case inner => rw [List.flatMap_cons, List.append_assoc, accounts.inner, first.inner]
          case written =>
            rw [accounts.written, first.written, List.flatMap_cons, List.append_assoc]
          case flushes =>
            rw [accounts.flushes, first.flushes, Nat.add_assoc, ← List.count_append,
              List.singleton_append]

/-- Runs come to an end, unless everything is to be read and all that follows is interruptions. -/
theorem run_eq_none_iff (served : ServedBy readInner) {uses : List Use}
    {start : Rewind MemoryStream} :
    run readInner uses start = none ↔ .readToEnd ∈ uses ∧ start.inner.Interrupts := by
  induction uses generalizing start with
  | nil => exact ⟨nofun, fun both => nomatch both.1⟩
  | cons use uses ih =>
      cases performed : start.perform readInner use with
      | none =>
          obtain ⟨rfl, interrupts⟩ := (perform_eq_none_iff served).mp performed
          simp [run_cons_of_none performed, interrupts]
      | some found =>
          obtain ⟨answer, behind⟩ := found
          have sameEnding := (perform_sound served performed).ending
          have ends : ¬ (use = .readToEnd ∧ start.inner.Interrupts) := by
            rw [← perform_eq_none_iff served, performed]
            exact nofun
          rw [run_cons_of_some performed, Option.map_eq_none_iff, ih, List.mem_cons,
            interrupts_iff_of_ending sameEnding]
          constructor
          · exact fun ⟨member, interrupts⟩ => ⟨.inr member, interrupts⟩
          · rintro ⟨here | member, interrupts⟩
            · exact absurd ⟨here.symm, interrupts⟩ ends
            · exact ⟨member, interrupts⟩

/-- Whatever is done with a stream and with the one under it, and however that one cuts its bytes
into pieces, no byte is lost, given twice or out of order. What has been given of the held bytes and
what is still held make up what was held at first, and the same goes for the bytes of the inner
stream. The only use that may not come to an end is one that reads everything and is interrupted for
ever. -/
theorem uses_lose_nothing (served : ServedBy readInner) (held : Bytes) (inner : MemoryStream)
    (uses : List Use) :
    (run readInner uses ⟨held, inner⟩ = none ↔ .readToEnd ∈ uses ∧ inner.Interrupts) ∧
    ∀ log last, run readInner uses ⟨held, inner⟩ = some (log, last) →
      Accounts readInner uses ⟨held, inner⟩ log last ∧ last.buffered = last.held.length :=
  ⟨run_eq_none_iff served, fun _ _ ran => ⟨run_accounts served ran, rfl⟩⟩

/-- Reads that give one byte at a time. -/
def byteByByte (size : Nat) (stream : MemoryStream) : Except Fault Bytes × MemoryStream :=
  stream.read (min size 1)

/-- Reads of no bytes and of too many, reads of the inner stream before and behind the held bytes,
and a fault at the end. -/
theorem mixed_uses_lose_nothing :
    let uses : List Use := [.read 0, .read 1, .readInner 2, .write [7], .read 5, .flush, .read 5,
      .readToEnd, .read 1]
    let start : Rewind MemoryStream := ⟨[1, 2, 3], .ofBytes [4, 5, 6] (some (.plain .brokenPipe))⟩
    ServedBy byteByByte ∧ ∃ log last, run byteByByte uses start = some (log, last) ∧
      log.map (·.answer.bytes) = [[], [1], [4], [], [2, 3], [], [5], [6], []] ∧
      Accounts byteByByte uses start log last := by
  intro uses start
  have served : ServedBy byteByByte :=
    fun size _ => ⟨min size 1, Nat.min_le_left size 1, fun asked => by omega, rfl⟩
  obtain ⟨-, accounts⟩ := uses_lose_nothing served [1, 2, 3]
    (.ofBytes [4, 5, 6] (some (.plain .brokenPipe))) uses
  exact ⟨served, _, _, rfl, rfl, (accounts _ _ rfl).1⟩

end Rewind

end ProxyDial
