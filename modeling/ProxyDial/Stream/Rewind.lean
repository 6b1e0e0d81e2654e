import ProxyDial.Stream.Memory

set_option autoImplicit false

/-! Streams with bytes held back: what has been read too far is served once more, before anything
else is read. A read serves held bytes or reads on, and never does both. -/

namespace ProxyDial
open Text

structure Rewind (σ : Type) where
  held : Bytes
  inner : σ
  deriving DecidableEq, Repr

namespace Rewind

variable {σ : Type}

def ofInner (inner : σ) : Rewind σ := ⟨[], inner⟩

/-- How many bytes are held back. -/
def buffered (stream : Rewind σ) : Nat := stream.held.length

/-- Up to `size` bytes: held ones while there are any, else from the inner stream. -/
def read {m : Type → Type} [Monad m] (readInner : Nat → σ → m (Except Fault Bytes × σ)) (size : Nat)
    (stream : Rewind σ) : m (Except Fault Bytes × Rewind σ) :=
  if stream.held.isEmpty then do
    let (result, inner) ← readInner size stream.inner
    return (result, { stream with inner := inner })
  else
    return (.ok (stream.held.take size), { stream with held := stream.held.drop size })

/-- A use of the inner stream that leaves the held bytes alone. -/
def mapInner (use : σ → σ) (stream : Rewind σ) : Rewind σ :=
  { stream with inner := use stream.inner }

/-- A read that involves nothing but the two streams. -/
def readAlone (readInner : Nat → σ → Except Fault Bytes × σ) (size : Nat) (stream : Rewind σ) :
    Except Fault Bytes × Rewind σ :=
  read (m := Id) readInner size stream

/-- A read from memory. -/
def readMemory (size : Nat) (stream : Rewind MemoryStream) :
    Except Fault Bytes × Rewind MemoryStream :=
  stream.readAlone MemoryStream.read size

/-- The bytes that are still to be read. -/
def remaining (stream : Rewind MemoryStream) : Nat :=
  stream.held.length + stream.inner.unread.length

/-- How much is asked for at once while a stream is read to its end. -/
def portion : Nat := 32

/-- Everything up to the end of the stream, and the fault that ends it early; nothing if so many
reads do not reach an end. A read that is interrupted is made again. -/
def readAll? (readInner : Nat → σ → Except Fault Bytes × σ) :
    (reads : Nat) → Rewind σ → Option (Bytes × Option Fault × Rewind σ)
  | 0, _ => none
  | reads + 1, stream =>
      match stream.readAlone readInner portion with
      | (.error fault, stream) =>
          if fault.kind = .interrupted then readAll? readInner reads stream
          else some ([], some fault, stream)
      | (.ok [], stream) => some ([], none, stream)
      | (.ok bytes, stream) =>
          (readAll? readInner reads stream).map fun (more, fault, stream) =>
            (bytes ++ more, fault, stream)

/-- Everything up to the end. A read that gives something leaves less, so `remaining + 1` reads are
enough, unless all reads at the end are interrupted: then there is no end. -/
def readToEnd? (readInner : Nat → MemoryStream → Except Fault Bytes × MemoryStream)
    (stream : Rewind MemoryStream) : Option (Bytes × Option Fault × Rewind MemoryStream) :=
  readAll? readInner (stream.remaining + 1) stream

/-- Everything in memory up to the end, where there is one. -/
def readToEnd (stream : Rewind MemoryStream) : Bytes × Option Fault × Rewind MemoryStream :=
  (stream.readToEnd? MemoryStream.read).getD ([], none, stream)

end Rewind

end ProxyDial
